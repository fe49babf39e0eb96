import ClarityCheck.Proofs.Json.Roundtrip
import ClarityCheck.Report
import ClarityCheck.Validation.ResponseReader
import Mathlib

/-!
# Reports that can be read back

A report in JSON is one line. From the line of a validation the response is read back, and from that
of the structural check whether the document is valid and where which errors and warnings were
found.

* `isLine_jsonLine`: the text of a value is a line
* `ofString_validation`: a response from its report
* `told?_verdict`: a verdict from its report
* `reports_read_back`: both, and that different results have different reports
-/

namespace ClarityCheck

open Json Text

/-! ## Lines -/

/-- A text that ends in its only line feed. -/
structure IsLine (text : String) : Prop where
  count : text.toList.count '\n' = 1
  last : text.toList.getLast? = some '\n'

namespace Json

theorem newline_not_mem_escapeChar (c : Char) : '\n' ∉ escapeChar c := by
  have hdigit : ∀ n < 16, hexDigit n ≠ '\n' := by decide
  rcases escapeChar_cases c with ⟨e, he, -, hshort⟩ | ⟨he, hc⟩ | ⟨he, -, -, hc⟩ <;> rw [he]
  · have hne : e ≠ '\n' := by
      rintro rfl
      cases hshort
    simp [Ne.symm hne]
  · have h₁ := hdigit (c.toNat / 16) (by omega)
    have h₂ := hdigit (c.toNat % 16) (by omega)
    simp [Ne.symm h₁, Ne.symm h₂]
  · have hne : c ≠ '\n' := by
      rintro rfl
      exact hc (by decide)
    simp [Ne.symm hne]

theorem newline_not_mem_renderString (s : List Char) : '\n' ∉ renderString s := by
  have hs : '\n' ∉ s.flatMap escapeChar := by
    rw [List.mem_flatMap]
    rintro ⟨c, -, hc⟩
    exact newline_not_mem_escapeChar c hc
  simp [renderString, hs]

theorem newline_not_mem_renderElements {vs : List Json} (h : ∀ v ∈ vs, '\n' ∉ v.render) :
    '\n' ∉ renderElements vs := by
  induction vs with
  | nil => simp [renderElements]
  | cons v vs ih =>
    have hvs := ih fun w hw => h w (by simp [hw])
    simp [renderElements, h v (by simp), hvs]

theorem newline_not_mem_renderMembers {ms : List (String × Json)}
    (h : ∀ m ∈ ms, '\n' ∉ m.2.render) :
    '\n' ∉ renderMembers ms := by
  induction ms with
  | nil => simp [renderMembers]
  | cons m ms ih =>
    obtain ⟨k, v⟩ := m
    have hv : '\n' ∉ v.render := h (k, v) (by simp)
    have hms := ih fun w hw => h w (by simp [hw])
    simp [renderMembers, newline_not_mem_renderString, hv, hms]

/-- The text of a value holds no line feed. -/
theorem newline_not_mem_render {d : Nat} {v : Json} (h : Fits d v) : '\n' ∉ v.render := by
  induction h with
  | null => decide
  | bool b => cases b <;> decide
  | @integer _ z _ =>
    have hdigits : '\n' ∉ Nat.toDigits 10 z.natAbs := by
      intro hm
      have := isDigit_of_mem_toDigits _ hm
      revert this
      decide
    rw [render_num, render_integer]
    split <;> simp [hdigits]
  | str s => exact newline_not_mem_renderString s.toList
  | @arr _ vs _ ih =>
    cases vs with
    | nil => decide
    | cons v vs =>
      have hvs := newline_not_mem_renderElements fun w hw => ih w (List.mem_cons_of_mem v hw)
      simp [render_arr_cons, ih v (by simp), hvs]
  | @obj _ ms _ ih =>
    cases ms with
    | nil => decide
    | cons m ms =>
      obtain ⟨k, v⟩ := m
      have hms := newline_not_mem_renderMembers fun w hw => ih w (List.mem_cons_of_mem (k, v) hw)
      have hv : '\n' ∉ v.render := ih (k, v) (by simp)
      simp [render_obj_cons, newline_not_mem_renderString, hv, hms]

end Json

theorem toList_jsonLine (v : Json) : (Report.jsonLine v).toList = v.render ++ ['\n'] := by
  simp [Report.jsonLine, compress]

/-- The text of a value is written as a line. -/
theorem isLine_jsonLine {d : Nat} {v : Json} (h : Fits d v) : IsLine (Report.jsonLine v) where
  count := by
    rw [toList_jsonLine, List.count_append, List.count_eq_zero.2 (newline_not_mem_render h)]
    rfl
  last := by rw [toList_jsonLine, List.getLast?_append_of_ne_nil _ (by simp)]; rfl

/-- A value is read back from its line. -/
theorem ofString?_jsonLine {v : Json} (h : Fits nestingLimit v) :
    ofString? (Report.jsonLine v) = some v.asRead := by
  have hholds : Holds (Report.jsonLine v) v :=
    ⟨[], ['\n'], by simp, by simp [isSpace], toList_jsonLine v⟩
  exact ofString?_of_holds hholds h

/-! ## Responses -/

namespace Validation.Response

/-- A member goes into a draft that lacks it. -/
inductive Fills (d : Draft) : String → Json → Draft → Prop
  | success (b : Bool) (h : d.success = none) :
      Fills d "success" (.bool b) { d with success := some b }
  | output (s : String) (h : d.output = none) : Fills d "output" (.str s)
      { d with output := some s }
  | errors (s : String) (h : d.errors = none) :
    Fills d "errors" (.str s) { d with errors := some (some s) }

theorem yields_readBool (b : Bool) (rest : List Char) :
    Yields (readBool ((Json.bool b).render ++ rest)) b rest := by
  cases b <;> rfl

theorem render_str_append (s : String) (rest : List Char) :
    (Json.str s).render ++ rest = '"' :: (s.toList.flatMap escapeChar ++ '"' :: rest) := by
  rw [render_str, renderString, List.append_assoc]
  rfl

theorem yields_readText (s : String) (rest : List Char) :
    Yields (readText ((Json.str s).render ++ rest)) s rest := by
  obtain ⟨_, e⟩ := (yields_readString s.toList rest).eq
  rw [render_str_append]
  have hspace := skipSpace_cons (c := '"') (by decide) (s.toList.flatMap escapeChar ++ '"' :: rest)
  unfold readText
  split
  · next h _ => simp [hspace] at h
  · next c t _ h _ =>
    obtain ⟨rfl, rfl⟩ := List.cons.inj (hspace.symm.trans h)
    simp [e, Yields, plain, Except.map]

theorem yields_readOptionalText (s : String) (rest : List Char) :
    Yields (readOptionalText ((Json.str s).render ++ rest)) (some s) rest := by
  have htext := yields_readText s rest
  rw [render_str_append] at htext ⊢
  obtain ⟨_, e⟩ := htext.eq
  have hspace := skipSpace_cons (c := '"') (by decide) (s.toList.flatMap escapeChar ++ '"' :: rest)
  unfold readOptionalText
  split
  · next h _ => simp [hspace] at h
  · next c t _ h _ =>
    obtain ⟨rfl, rfl⟩ := List.cons.inj (hspace.symm.trans h)
    rw [if_neg (by decide), e]
    rfl

/-- A member is read into the draft that it fills. -/
theorem yields_readMember {d d' : Draft} {k : String} {v : Json} (h : Fills d k v d')
    (rest : List Char) :
    Yields (readMember d (memberText k v rest)) d' rest := by
  obtain ⟨_, e₁⟩ := (yields_readString k.toList (':' :: (v.render ++ rest))).eq
  obtain ⟨_, e₂⟩ := (yields_readColon (v.render ++ rest)).eq
  have h₁ : "output".toList ≠ "success".toList := by decide
  have h₂ : "errors".toList ≠ "success".toList := by decide
  have h₃ : "errors".toList ≠ "output".toList := by decide
  unfold readMember memberText
  cases h with
  | success b h =>
    obtain ⟨_, e₃⟩ := (yields_readBool b rest).eq
    simp only [e₁, e₂, e₃, h, h₁.symm, h₂.symm, Option.isSome_none, Bool.false_eq_true, false_and,
      and_false, if_false, if_true]
    rfl
  | output s h =>
    obtain ⟨_, e₃⟩ := (yields_readText s rest).eq
    simp only [e₁, e₂, e₃, h, h₁, h₃.symm, Option.isSome_none, Bool.false_eq_true, false_and,
      and_false, if_false, if_true]
    rfl
  | errors s h =>
    obtain ⟨_, e₃⟩ := (yields_readOptionalText s rest).eq
    simp only [e₁, e₂, e₃, h, h₂, h₃, Option.isSome_none, Bool.false_eq_true, false_and, and_false,
      if_false, if_true]
    rfl

/-- Members fill a draft one after the other. -/
inductive FillsAll : Draft → List (String × Json) → Draft → Prop
  | nil (d : Draft) : FillsAll d [] d
  | cons {d d' d'' : Draft} {k : String} {v : Json} {ms : List (String × Json)} (h : Fills d k v d')
    (hs : FillsAll d' ms d'') : FillsAll d ((k, v) :: ms) d''

/-- What becomes of a draft at the end of its object. -/
def ended (d : Draft) (rest : List Char) : Except Fault (Response × List Char) :=
  (d.finish rest).map (·, rest)

theorem readMembers_end (first : Bool) (d : Draft) (rest : List Char) :
    readMembers first d ('\x7d' :: rest) = ended d rest := by
  have hspace := skipSpace_cons (c := '\x7d') (by decide) rest
  rw [readMembers]
  split
  · next h => simp [hspace] at h
  · next c t h =>
    obtain ⟨rfl, rfl⟩ := List.cons.inj (hspace.symm.trans h)
    rw [if_pos rfl, ended]
    cases d.finish rest <;> rfl

/-- The members of an object behind the first are read into a draft. -/
theorem readMembers_renderMembers {d d' : Draft} {ms : List (String × Json)} (h : FillsAll d ms d')
    (rest : List Char) :
    readMembers false d (renderMembers ms ++ '\x7d' :: rest) = ended d' rest := by
  induction h with
  | nil d => exact readMembers_end false d rest
  | @cons d d' d'' k v ms h _ ih =>
    have htext : renderMembers ((k, v) :: ms) ++ '\x7d' :: rest
        = ',' :: '"' :: memberText k v (renderMembers ms ++ '\x7d' :: rest) := by
      simp [renderMembers, renderString, memberText]
    have hcomma := skipSpace_cons (c := ',') (by decide)
      ('"' :: memberText k v (renderMembers ms ++ '\x7d' :: rest))
    have hquote :=
      skipSpace_cons (c := '"') (by decide) (memberText k v (renderMembers ms ++ '\x7d' :: rest))
    obtain ⟨_, e⟩ := (yields_readMember h (renderMembers ms ++ '\x7d' :: rest)).eq
    -- A comma leads to the next member, and the member is read into the draft.
    rw [htext, readMembers]
    split
    · next h => simp [hcomma] at h
    next c t h =>
    obtain ⟨rfl, rfl⟩ := List.cons.inj (hcomma.symm.trans h)
    rw [if_neg (by decide), if_neg (by decide), if_pos rfl]
    split
    · next h => simp [hquote] at h
    next c u h =>
    obtain ⟨rfl, rfl⟩ := List.cons.inj (hquote.symm.trans h)
    rw [if_pos rfl, e]
    exact ih

/-- The members of an object are read into an empty draft. -/
theorem readMembers_render {d : Draft} {k : String} {v : Json} {ms : List (String × Json)}
    (h : FillsAll {} ((k, v) :: ms) d) (rest : List Char) :
    ∃ t, (Json.obj ((k, v) :: ms)).render ++ rest = '\x7b' :: t ∧
      readMembers true {} t = ended d rest := by
  refine ⟨'"' :: memberText k v (renderMembers ms ++ '\x7d' :: rest), ?_, ?_⟩
  · simp [render_obj_cons, renderString, memberText]
  cases h with
  | @cons _ d' _ _ _ _ h hs =>
    have hquote :=
      skipSpace_cons (c := '"') (by decide) (memberText k v (renderMembers ms ++ '\x7d' :: rest))
    obtain ⟨_, e⟩ := (yields_readMember h (renderMembers ms ++ '\x7d' :: rest)).eq
    rw [readMembers]
    split
    · next h => simp [hquote] at h
    next c t h =>
    obtain ⟨rfl, rfl⟩ := List.cons.inj (hquote.symm.trans h)
    rw [if_neg (by decide), if_pos rfl, if_pos rfl, e]
    exact readMembers_renderMembers hs rest

/-- A response is read from the line of an object whose members fill a draft of it. -/
theorem ofString_of_fillsAll {d : Draft} {r : Response} {k : String} {v : Json}
    {ms : List (String × Json)} (h : FillsAll {} ((k, v) :: ms) d)
    (hr : d.finish ['\n'] = .ok r) : ofString (Report.jsonLine (.obj ((k, v) :: ms))) = .ok r := by
  obtain ⟨t, ht, hread⟩ := readMembers_render h ['\n']
  have hspace := skipSpace_cons (c := '\x7b') (by decide) t
  have hend : readEnd ['\n'] = .ok () := rfl
  rw [ofString, toList_jsonLine, ht, ofChars, hspace]
  simp only [Char.reduceEq, if_false, if_true, hread, ended, hr, Except.map, hend]
  rfl

/-- A response is read back from its report. -/
theorem ofString_validation (r : Response) : ofString (Report.validation r .json) = .ok r := by
  obtain ⟨success, output, errors⟩ := r
  have houtput : Fills { success := some success } "output" (.str output)
      { success := some success, output := some output } := .output output rfl
  cases errors with
  | none => exact ofString_of_fillsAll (.cons (.success success rfl) (.cons houtput (.nil _))) rfl
  | some e =>
    exact ofString_of_fillsAll
      (.cons (.success success rfl) (.cons houtput (.cons (.errors e rfl) (.nil _)))) rfl

theorem fits_toJson (r : Response) : Fits nestingLimit r.toJson := by
  refine .obj fun m hm => ?_
  cases he : r.errors with
  | none =>
    simp only [he, List.append_nil, List.mem_cons, List.not_mem_nil, or_false] at hm
    rcases hm with rfl | rfl
    · exact .bool _
    · exact .str _
  | some e =>
    simp only [he, List.cons_append, List.nil_append, List.mem_cons, List.not_mem_nil, or_false]
      at hm
    rcases hm with rfl | rfl | rfl
    · exact .bool _
    · exact .str _
    · exact .str _

end Validation.Response

/-! ## Verdicts -/

namespace Report

open Lint

/-- The line and the message of a diagnostic. -/
def located (d : Diagnostic) : Nat × String := (d.line, d.message)

/-- The line and the message that a value tells. -/
def located? (v : Json) : Option (Nat × String) :=
  match v.get? "line", v.get? "message" with
  | some (.num (.integer (.ofNat n))), some (.str m) => some (n, m)
  | _, _ => none

/-- What a report of the structural check tells: whether the document is valid, and the lines and
messages of the errors and the warnings. -/
structure Told where
  isValid : Bool
  errors : List (Nat × String)
  warnings : List (Nat × String)
  deriving DecidableEq

/-- What a text tells as a report of the structural check. -/
def told? (text : String) : Option Told :=
  match ofString? text with
  | none => none
  | some v =>
    match v.get? "isValid", v.get? "errors", v.get? "warnings" with
    | some (.bool valid), some (.arr es), some (.arr ws) => do
      return ⟨valid, ← es.mapM located?, ← ws.mapM located?⟩
    | _, _, _ => none

variable {valid : Bool} {errors warnings : List Diagnostic}

/-- The number of a line has 64 bits. -/
def HasLineNumber (d : Diagnostic) : Prop := d.line < 2 ^ 64

theorem fits_diagnosticJson {n : Nat} {d : Diagnostic} (h : HasLineNumber d) :
    Fits (n + 1) (diagnosticJson d) := by
  have hline : d.line < integerLimit := Nat.lt_trans h (by decide +kernel)
  refine .obj fun m hm => ?_
  simp only [List.mem_cons, List.not_mem_nil, or_false] at hm
  rcases hm with rfl | rfl
  · exact .integer (by simpa using hline)
  · exact .str _

theorem fits_verdictJson (he : ∀ d ∈ errors, HasLineNumber d)
    (hw : ∀ d ∈ warnings, HasLineNumber d) :
    Fits nestingLimit (verdictJson valid errors warnings) := by
  have harr {n : Nat} {ds : List Diagnostic} (h : ∀ d ∈ ds, HasLineNumber d) :
      Fits (n + 2) (.arr (ds.map diagnosticJson)) := by
    refine .arr fun v hv => ?_
    obtain ⟨d, hd, rfl⟩ := List.mem_map.1 hv
    exact fits_diagnosticJson (h d hd)
  refine .obj fun m hm => ?_
  simp only [List.mem_cons, List.not_mem_nil, or_false] at hm
  rcases hm with rfl | rfl | rfl
  · exact .bool _
  · exact harr he
  · exact harr hw

theorem located?_diagnosticJson {d : Diagnostic} (h : HasLineNumber d) :
    located? (diagnosticJson d).asRead = some (located d) := by
  have hline : (Number.integer d.line).asRead = .integer d.line :=
    asRead_integer (by omega) (by unfold HasLineNumber at h; omega)
  have hget : (diagnosticJson d).get? "line" = some (.num (.integer d.line)) ∧
      (diagnosticJson d).get? "message" = some (.str d.message) := by
    simp [diagnosticJson, get?, Json.ofNat, List.lookup]
  rw [located?, get?_asRead, get?_asRead, hget.1, hget.2]
  simp only [Option.map_some, asRead, hline]
  rfl

theorem elementsAsRead_eq (vs : List Json) : elementsAsRead vs = vs.map asRead := by
  induction vs with
  | nil => rfl
  | cons v vs ih => rw [elementsAsRead, ih, List.map_cons]

theorem mapM_located? {ds : List Diagnostic} (h : ∀ d ∈ ds, HasLineNumber d) :
    (elementsAsRead (ds.map diagnosticJson)).mapM located? = some (ds.map located) := by
  rw [elementsAsRead_eq]
  induction ds with
  | nil => rfl
  | cons d ds ih =>
    rw [List.map_cons, List.map_cons, List.mapM_cons, located?_diagnosticJson (h d (by simp)),
      ih fun e he => h e (by simp [he])]
    rfl

/-- What is told by the line of a verdict. -/
theorem told?_verdict (he : ∀ d ∈ errors, HasLineNumber d) (hw : ∀ d ∈ warnings, HasLineNumber d) :
    told? (jsonLine (verdictJson valid errors warnings)) =
      some ⟨valid, errors.map located, warnings.map located⟩ := by
  have hvalid : (verdictJson valid errors warnings).get? "isValid" = some (.bool valid) := by
    simp [verdictJson, get?, List.lookup]
  have herrors : (verdictJson valid errors warnings).get? "errors" =
      some (.arr (errors.map diagnosticJson)) := by
    simp [verdictJson, get?, List.lookup]
  have hwarnings : (verdictJson valid errors warnings).get? "warnings" =
      some (.arr (warnings.map diagnosticJson)) := by
    simp [verdictJson, get?]
  rw [told?, ofString?_jsonLine (fits_verdictJson he hw)]
  simp only [get?_asRead, hvalid, herrors, hwarnings, Option.map_some, asRead, mapM_located? he,
    mapM_located? hw]
  rfl

/-- A response tells nothing about a document. -/
theorem told?_validation (r : Validation.Response) : told? (validation r .json) = none := by
  have hget : r.toJson.get? "isValid" = none := by
    cases h : r.errors <;> simp [Validation.Response.toJson, get?, h, List.lookup]
  rw [told?, validation, ofString?_jsonLine r.fits_toJson]
  simp only [get?_asRead, hget, Option.map_none]

/-- A diagnostic is known from its severity, its line and its message. -/
theorem eq_of_located_eq {d e : Diagnostic} (hs : d.severity = e.severity)
    (h : located d = located e) :
    d = e := by
  obtain ⟨s, n, m⟩ := d
  obtain ⟨s', n', m'⟩ := e
  obtain ⟨rfl, rfl⟩ : n = n' ∧ m = m' := by simpa [located] using h
  exact congrArg (Diagnostic.mk · n m) hs

theorem eq_of_map_located_eq {s : Severity} {ds es : List Diagnostic}
    (hd : ∀ d ∈ ds, d.severity = s) (he : ∀ e ∈ es, e.severity = s)
    (h : ds.map located = es.map located) : ds = es := by
  induction ds generalizing es with
  | nil => simpa using h.symm
  | cons d ds ih =>
    cases es with
    | nil => simp at h
    | cons e es =>
      obtain ⟨hhead, htail⟩ : located d = located e ∧ ds.map located = es.map located := by
        simpa using h
      have hsev : d.severity = e.severity := (hd d (by simp)).trans (he e (by simp)).symm
      rw [eq_of_located_eq hsev hhead,
        ih (fun d' h' => hd d' (by simp [h'])) (fun e' h' => he e' (by simp [h'])) htail]

/-- Sorted diagnostics are known from the lines and the messages. -/
theorem ofDiagnostics_eq {ds es : List Diagnostic}
    (herrors : (Verdict.ofDiagnostics ds).errors.map located =
      (Verdict.ofDiagnostics es).errors.map located)
    (hwarnings : (Verdict.ofDiagnostics ds).warnings.map located
      = (Verdict.ofDiagnostics es).warnings.map located) :
    Verdict.ofDiagnostics ds = Verdict.ofDiagnostics es := by
  have herr (fs : List Diagnostic) : ∀ d ∈ (Verdict.ofDiagnostics fs).errors,
      d.severity = .error := by
    intro d hd
    simpa [Diagnostic.isError] using (List.mem_filter.1 hd).2
  have hwarn (fs : List Diagnostic) :
      ∀ d ∈ (Verdict.ofDiagnostics fs).warnings, d.severity = .warning := by
    intro d hd
    have hne : d.severity ≠ .error := by simpa [Diagnostic.isError] using (List.mem_filter.1 hd).2
    cases hs : d.severity with
    | error => exact absurd hs hne
    | warning => rfl
  have e₁ := eq_of_map_located_eq (herr ds) (herr es) herrors
  have e₂ := eq_of_map_located_eq (hwarn ds) (hwarn es) hwarnings
  calc Verdict.ofDiagnostics ds
      = ⟨(Verdict.ofDiagnostics ds).errors, (Verdict.ofDiagnostics ds).warnings⟩ := rfl
    _ = Verdict.ofDiagnostics es := by rw [e₁, e₂]

/-- Every report in JSON is one line. A response is read back from its report, and from the report
of the structural check whether the document is valid and where which errors and warnings were
found. So different results have different reports. -/
theorem reports_read_back (r : Validation.Response) (valid : Bool)
    (errors warnings : List Diagnostic) (he : ∀ d ∈ errors, HasLineNumber d)
    (hw : ∀ d ∈ warnings, HasLineNumber d) :
    (IsLine (validation r .json) ∧ Validation.Response.ofString (validation r .json) = .ok r) ∧
      (IsLine (jsonLine (verdictJson valid errors warnings)) ∧
        told? (jsonLine (verdictJson valid errors warnings)) =
          some ⟨valid, errors.map located, warnings.map located⟩) ∧
      (∀ v : Verdict, lint v .json = jsonLine (verdictJson v.isValid v.errors v.warnings)) ∧
      (∀ r', validation r' .json = validation r .json → r' = r) ∧
      (∀ valid' errors' warnings', (∀ d ∈ errors', HasLineNumber d) →
        (∀ d ∈ warnings', HasLineNumber d) →
        jsonLine (verdictJson valid' errors' warnings') =
          jsonLine (verdictJson valid errors warnings) →
        valid' = valid ∧ errors'.map located = errors.map located ∧
          warnings'.map located = warnings.map located) ∧
      (∀ ds es, (∀ d ∈ ds, HasLineNumber d) → (∀ d ∈ es, HasLineNumber d) →
        lint (.ofDiagnostics ds) .json = lint (.ofDiagnostics es) .json →
        Verdict.ofDiagnostics ds = Verdict.ofDiagnostics es) ∧
      validation r .json ≠ jsonLine (verdictJson valid errors warnings) := by
  -- Lines that are the same tell the same.
  have alike {valid valid' : Bool} {errors errors' warnings warnings' : List Diagnostic}
      (he : ∀ d ∈ errors, HasLineNumber d) (hw : ∀ d ∈ warnings, HasLineNumber d)
      (he' : ∀ d ∈ errors', HasLineNumber d) (hw' : ∀ d ∈ warnings', HasLineNumber d)
      (h : jsonLine (verdictJson valid' errors' warnings') =
        jsonLine (verdictJson valid errors warnings)) :
      valid' = valid ∧ errors'.map located = errors.map located ∧
        warnings'.map located = warnings.map located := by
    have htold : told? (jsonLine (verdictJson valid' errors' warnings')) =
        some ⟨valid', errors'.map located, warnings'.map located⟩ := told?_verdict he' hw'
    rw [h, told?_verdict he hw] at htold
    simpa [eq_comm] using htold
  refine ⟨⟨isLine_jsonLine r.fits_toJson, r.ofString_validation⟩,
    ⟨isLine_jsonLine (fits_verdictJson he hw), told?_verdict he hw⟩, fun v => rfl, ?_, ?_, ?_, ?_⟩
  · intro r' h
    have hread := r'.ofString_validation
    rw [h, r.ofString_validation] at hread
    exact (Except.ok.inj hread).symm
  · intro valid' errors' warnings' he' hw' h
    exact alike he hw he' hw' h
  · intro ds es hds hes h
    have hmem {fs : List Diagnostic} (hfs : ∀ d ∈ fs, HasLineNumber d) :
        (∀ d ∈ (Verdict.ofDiagnostics fs).errors, HasLineNumber d) ∧
          ∀ d ∈ (Verdict.ofDiagnostics fs).warnings, HasLineNumber d :=
      ⟨fun d hd => hfs d (List.mem_of_mem_filter hd), fun d hd => hfs d (List.mem_of_mem_filter hd)⟩
    obtain ⟨-, herrors, hwarnings⟩ := alike (hmem hes).1 (hmem hes).2 (hmem hds).1 (hmem hds).2 h
    exact ofDiagnostics_eq herrors hwarnings
  · intro h
    have htold := told?_validation r
    rw [h, told?_verdict he hw] at htold
    cases htold

/-- The report of a response that holds a line feed, a quote and a backslash, and that of an error
in the first and a warning in the last line that has a number. -/
theorem reports_read_back_of_escapes :
    Validation.Response.ofString (validation ⟨false, "\"\n\\", some "\x01"⟩ .json)
        = .ok ⟨false, "\"\n\\", some "\x01"⟩ ∧
      told? (jsonLine (verdictJson false [⟨.error, 1, "a\nb"⟩] [⟨.warning, 2 ^ 64 - 1, ""⟩])) =
        some ⟨false, [(1, "a\nb")], [(2 ^ 64 - 1, "")]⟩ := by
  have h := reports_read_back ⟨false, "\"\n\\", some "\x01"⟩ false [⟨.error, 1, "a\nb"⟩]
    [⟨.warning, 2 ^ 64 - 1, ""⟩] (by simp [HasLineNumber]) (by simp [HasLineNumber])
  exact ⟨h.1.2, h.2.1.2⟩

end Report

end ClarityCheck
