import ClarityCheck.Proofs.Lint.FunctionName
import ClarityCheck.Report

/-!
# Reports for people

The report of the structural check as text goes line by line: a line for each diagnostic, and a line
that counts them or tells that there are none. Messages take names over from the document, but never
a blank with them. So a message stays on its line, and the text reads back as the diagnostics that
it was made from.

* `ofLine?_eq_some_iff`, `counts?_eq_some_iff`: the lines that read as a diagnostic or as counts
* `blanks_message`: the blanks of a message are those of its wording
* `splitLines_lintText`: the lines of a report
* `lint_reads_back`: the report on any document
-/

namespace ClarityCheck

namespace Text

/-! ## Reading texts -/

theorem cut?_eq_some_iff {sep : Char} {text s t : List Char} :
    cut? sep text = some (s, t) ↔ text = s ++ sep :: t ∧ sep ∉ s := by
  constructor
  · intro h
    unfold cut? at h
    split at h
    · cases h
    · next c rest hrest =>
      cases h
      have hc : c = sep := by
        have := List.head?_dropWhile_not (fun d => decide (d ≠ sep)) text
        rw [hrest] at this
        simpa using this
      refine ⟨?_, fun hm => by simpa using List.mem_takeWhile_imp hm⟩
      rw [← hc, ← hrest, hc, List.takeWhile_append_dropWhile]
  · rintro ⟨rfl, hs⟩
    have hpos : ∀ c ∈ s, decide (c ≠ sep) = true := fun c hc => decide_eq_true fun he =>
      hs (he ▸ hc)
    rw [cut?, List.dropWhile_append_of_pos hpos, List.takeWhile_append_of_pos hpos]
    simp

theorem dropStart?_append (start rest : List Char) : dropStart? start (start ++ rest) = some rest :=
  dropStart?_eq_some_iff.2 rfl

/-- The number whose digits a text begins with, and what follows them. -/
def number? (s : List Char) : Option (Nat × List Char) :=
  let digits := s.takeWhile Char.isDigit
  let n := Nat.ofDigitChars 10 digits 0
  if Nat.toDigits 10 n = digits then some (n, s.dropWhile Char.isDigit) else none

theorem number?_eq_some_iff {s rest : List Char} {n : Nat} :
    number? s = some (n, rest) ↔ s = Nat.toDigits 10 n ++ rest ∧ ∀ c ∈ rest.head?,
      c.isDigit = false := by
  constructor
  · intro h
    unfold number? at h
    dsimp only at h
    split at h
    · next hdigits =>
      cases h
      refine ⟨by rw [hdigits, List.takeWhile_append_dropWhile], fun c hc => ?_⟩
      have := List.head?_dropWhile_not Char.isDigit s
      rwa [Option.mem_def.1 hc] at this
    · cases h
  · rintro ⟨rfl, hrest⟩
    have hpos : ∀ c ∈ Nat.toDigits 10 n, c.isDigit = true := Json.isDigit_of_mem_toDigits
    have hends : rest.takeWhile Char.isDigit = [] ∧ rest.dropWhile Char.isDigit = rest := by
      cases rest with
      | nil => exact ⟨rfl, rfl⟩
      | cons c rest =>
        have hc : c.isDigit = false := hrest c rfl
        simp [hc]
    simp only [number?, List.takeWhile_append_of_pos hpos, List.dropWhile_append_of_pos hpos, hends,
      List.append_nil, Nat.ofDigitChars_ten_toDigits, if_true]

end Text

namespace Lint

open Text

/-! ## Lines of a report -/

/-- The severity that a word stands for. -/
def Severity.ofName? (word : List Char) : Option Severity :=
  [Severity.error, Severity.warning].find? (·.name.toList == word)

theorem ofName?_eq_some_iff {word : List Char} {s : Severity} :
    Severity.ofName? word = some s ↔ word = s.name.toList := by
  constructor
  · intro h
    have := List.find?_some h
    exact (beq_iff_eq.1 this).symm
  · rintro rfl
    cases s <;> decide

/-- The diagnostic that a line of a report tells, read as its number, its severity and its message.
-/
def Diagnostic.ofLine? (line : List Char) : Option Diagnostic := do
  let (number, rest) ← number? (← dropStart? "line ".toList line)
  let (word, rest) ← cut? ':' (← dropStart? ": ".toList rest)
  return ⟨← Severity.ofName? word, number, String.ofList (← dropStart? " ".toList rest)⟩

/-- The numbers of errors and warnings that a line of a report tells. -/
def counts? (line : List Char) : Option (Nat × Nat) := do
  let (errors, rest) ← number? line
  let (warnings, rest) ← number? (← dropStart? " error(s), ".toList rest)
  if rest = " warning(s)".toList then return (errors, warnings) else none

theorem toList_text (d : Diagnostic) : d.text.toList = "line ".toList ++ (Nat.toDigits 10 d.line ++
    (": ".toList ++ (d.severity.name.toList ++ ':' :: (" ".toList ++ d.message.toList)))) := by
  simp [Diagnostic.text]

/-- A line reads as a diagnostic when it is the line of this diagnostic. -/
theorem ofLine?_eq_some_iff {line : List Char} {d : Diagnostic} :
    Diagnostic.ofLine? line = some d ↔ line = d.text.toList := by
  have hcolon (s : Severity) : ':' ∉ s.name.toList := by cases s <;> decide
  constructor
  · intro h
    simp only [Diagnostic.ofLine?, Option.bind_eq_bind, Option.bind_eq_some_iff,
      dropStart?_eq_some_iff, number?_eq_some_iff, cut?_eq_some_iff, ofName?_eq_some_iff,
      Prod.exists, Option.pure_def,
      Option.some.injEq] at h
    obtain ⟨_, rfl, n, _, ⟨rfl, -⟩, _, rfl, _, _, ⟨rfl, -⟩, s, rfl, message, rfl, rfl⟩ := h
    simp [toList_text]
  · rintro rfl
    have hdigits : ∀ c ∈ (": ".toList ++ (d.severity.name.toList ++ ':' :: (" ".toList ++
        d.message.toList))).head?, c.isDigit = false := by
      rintro c ⟨⟩
      decide
    rw [toList_text, Diagnostic.ofLine?]
    refine Option.bind_eq_some_iff.2 ⟨_, dropStart?_append _ _, ?_⟩
    refine Option.bind_eq_some_iff.2 ⟨_, number?_eq_some_iff.2 ⟨rfl, hdigits⟩, ?_⟩
    refine Option.bind_eq_some_iff.2 ⟨_, dropStart?_append _ _, ?_⟩
    refine Option.bind_eq_some_iff.2 ⟨_, cut?_eq_some_iff.2 ⟨rfl, hcolon _⟩, ?_⟩
    refine Option.bind_eq_some_iff.2 ⟨_, ofName?_eq_some_iff.2 rfl, ?_⟩
    refine Option.bind_eq_some_iff.2 ⟨_, dropStart?_append _ _, ?_⟩
    rw [String.ofList_toList]
    rfl

/-- A line reads as counts when it is the line of these counts. -/
theorem counts?_eq_some_iff {line : List Char} {errors warnings : Nat} :
    counts? line = some (errors, warnings) ↔ line = Nat.toDigits 10 errors ++
      (" error(s), ".toList ++ (Nat.toDigits 10 warnings ++ " warning(s)".toList)) := by
  constructor
  · intro h
    simp only [counts?, Option.bind_eq_bind, Option.bind_eq_some_iff, dropStart?_eq_some_iff,
      number?_eq_some_iff, Prod.exists, Option.pure_def] at h
    obtain ⟨_, _, ⟨rfl, -⟩, _, rfl, _, rest, ⟨rfl, -⟩, h⟩ := h
    split at h
    · next hrest =>
      cases h
      rw [hrest]
    · cases h
  · rintro rfl
    have herrors :
      ∀ c ∈ (" error(s), ".toList ++ (Nat.toDigits 10 warnings ++ " warning(s)".toList)).head?,
        c.isDigit = false := by
      rintro c ⟨⟩
      decide
    have hwarnings : ∀ c ∈ " warning(s)".toList.head?, c.isDigit = false := by
      rintro c ⟨⟩
      decide
    refine Option.bind_eq_some_iff.2 ⟨_, number?_eq_some_iff.2 ⟨rfl, herrors⟩, ?_⟩
    refine Option.bind_eq_some_iff.2 ⟨_, dropStart?_append _ _, ?_⟩
    refine Option.bind_eq_some_iff.2 ⟨_, number?_eq_some_iff.2 ⟨rfl, hwarnings⟩, ?_⟩
    exact if_pos rfl

/-- No line reads both ways: that of a diagnostic begins with a letter, that of counts with a digit.
-/
theorem ofLine?_of_counts? {line : List Char} {p : Nat × Nat} (h : counts? line = some p) :
    Diagnostic.ofLine? line = none := by
  obtain ⟨errors, warnings⟩ := p
  cases hline : Diagnostic.ofLine? line with
  | none => rfl
  | some d =>
    have hletter : line.head? = some 'l' := by rw [ofLine?_eq_some_iff.1 hline, toList_text]; rfl
    have hdigit : ∃ c ∈ Nat.toDigits 10 errors, line.head? = some c := by
      obtain ⟨c, s, hs⟩ := List.exists_cons_of_ne_nil (Nat.toDigits_ne_nil (n := errors) (b := 10))
      exact ⟨c, by rw [hs]; exact List.mem_cons_self, by rw [counts?_eq_some_iff.1 h, hs]; rfl⟩
    obtain ⟨c, hc, hhead⟩ := hdigit
    have := Json.isDigit_of_mem_toDigits c hc
    rw [← Option.some.inj (hletter.symm.trans hhead)] at this
    exact absurd this (by decide)

/-! ## Messages -/

namespace Finding

/-- What a message takes over from the document. -/
def borrowed : Finding → List Char
  | .missingName s | .invalidName s | .noResult s => s
  | _ => []

/-- The finding whose message has nothing from the document. -/
def bare : Finding → Finding
  | .missingName _ => .missingName []
  | .invalidName _ => .invalidName []
  | .noResult _ => .noResult []
  | f => f

end Finding

/-- The blanks of a message in their order. -/
def blanks (message : String) : List Char := message.toList.filter isBlank

theorem toList_append_ofList (before : String) (s : List Char) :
    (before ++ String.ofList s).toList = before.toList ++ s := by
  rw [String.toList_append, String.toList_ofList]

/-- A message is its wording with what it takes over from the document in one place. -/
theorem message_around (f : Finding) : ∃ before after : List Char,
    f.message.toList = before ++ (f.borrowed ++ after) ∧ f.bare.message.toList = before ++
      after := by
  -- The equations of `Finding.message` take long to make, so the definition is opened without them.
  cases f with
  | missingName keyword =>
    delta Finding.message
    refine ⟨"missing function name after ".toList, [], ?_, ?_⟩
    · exact (toList_append_ofList _ keyword).trans (by rw [List.append_nil]; rfl)
    · exact toList_append_ofList _ []
  | invalidName name | noResult name =>
    have hframed (before after : String) (s : List Char) :
        (before ++ String.ofList s ++ after).toList = before.toList ++ (s ++ after.toList) := by
      rw [String.toList_append, toList_append_ofList, List.append_assoc]
    delta Finding.message
    exact ⟨_, _, hframed _ _ name, hframed _ _ []⟩
  | strayCloser | noDeclaration | shortDataVar | shortDataMap | unguardedCaller | noResponse
  | unclosed n =>
    exact ⟨_, [], (List.append_nil _).symm, (List.append_nil _).symm⟩

/-- The blanks of a message are those of its wording when it takes no blank over. -/
theorem blanks_message {f : Finding} (h : ∀ c ∈ f.borrowed, isBlank c = false) :
    blanks f.message = blanks f.bare.message := by
  obtain ⟨before, after, hmessage, hbare⟩ := message_around f
  have hborrowed : f.borrowed.filter isBlank = [] :=
    List.filter_eq_nil_iff.2 fun c hc => by simp [h c hc]
  rw [blanks, blanks, hmessage, hbare, List.filter_append, List.filter_append, List.filter_append,
    hborrowed, List.nil_append]

theorem isBlank_of_isDigit {c : Char} (h : c.isDigit = true) : isBlank c = false := by
  obtain ⟨hlow, hhigh⟩ := (Json.isDigit_iff c).1 h
  rw [← Bool.not_eq_true, isBlank_iff_mem]
  have hlow : 48 ≤ c.toNat := hlow
  have hhigh : c.toNat ≤ 57 := hhigh
  simp only [blankCodes, List.mem_cons, List.not_mem_nil, or_false]
  omega

theorem blanks_append (a b : String) : blanks (a ++ b) = blanks a ++ blanks b := by
  rw [blanks, String.toList_append, List.filter_append]
  rfl

/-- The blanks of a wording are spaces. -/
theorem blanks_bare (f : Finding) : ∀ c ∈ blanks f.bare.message, c = ' ' := by
  have hspaces {s : List Char} (h : (s.filter isBlank).all (· == ' ') = true) :
      ∀ c ∈ blanks (String.ofList s), c = ' ' := by
    rw [blanks, String.toList_ofList]
    exact fun c hc => beq_iff_eq.1 (List.all_eq_true.1 h c hc)
  have happend {a b : String} (ha : ∀ c ∈ blanks a, c = ' ') (hb : ∀ c ∈ blanks b, c = ' ') :
      ∀ c ∈ blanks (a ++ b), c = ' ' := by
    rw [blanks_append]
    exact List.forall_mem_append.2 ⟨ha, hb⟩
  delta Finding.message
  cases f with
  | unclosed n =>
    have hdigits : ∀ c ∈ blanks (toString n), c = ' ' := by
      rw [blanks, Nat.toString_eq_repr, Nat.toList_repr, List.filter_eq_nil_iff.2]
      · exact fun c hc => (List.not_mem_nil hc).elim
      · exact fun c hc => by simp [isBlank_of_isDigit (Json.isDigit_of_mem_toDigits c hc)]
    refine happend (happend hdigits (hspaces (by decide))) ?_
    split_ifs
    · exact hspaces (by decide)
    · exact hspaces (by decide)
  | missingName keyword => exact happend (hspaces (by decide)) (hspaces (by decide))
  | invalidName name | noResult name =>
    exact happend (happend (hspaces (by decide)) (hspaces (by decide))) (hspaces (by decide))
  | _ => exact hspaces (by decide)

/-- The message of a finding takes over no blank: those that it has belong to its wording, and so it
stays on its line. -/
structure Finding.KeepsLine (f : Finding) : Prop where
  borrowed : ∀ c ∈ f.borrowed, isBlank c = false
  blanks : blanks f.message = blanks f.bare.message
  oneLine : '\n' ∉ f.message.toList

theorem keepsLine_of_isRun {f : Finding} (h : IsRun f.borrowed) : f.KeepsLine := by
  have hborrowed : ∀ c ∈ f.borrowed, isBlank c = false := by
    intro c hc
    have := h c hc
    simp only [isBoundary, Bool.or_eq_false_iff] at this
    exact this.1.1
  refine ⟨hborrowed, blanks_message hborrowed, fun hm => ?_⟩
  have hblank : '\n' ∈ blanks f.bare.message := by
    rw [← blanks_message hborrowed]
    exact List.mem_filter.2 ⟨hm, by decide⟩
  exact absurd (blanks_bare f _ hblank) (by decide)

/-! ## What the check takes over -/

theorem isRun_nil : IsRun [] := fun _ hc => (List.not_mem_nil hc).elim

theorem isRun_of_mem_functionFindings {line keyword rest : List Char} {f : Finding}
    (hk : IsRun keyword) (h : f ∈ functionFindings line keyword rest) : IsRun f.borrowed := by
  have hname : IsRun (declaredName rest) := isRun_takeWhile _
  rw [functionFindings, List.mem_append, nameFindings] at h
  rcases h with h | h
  · split_ifs at h
    · obtain rfl := List.mem_singleton.1 h
      exact hk
    · cases h
    · obtain rfl := List.mem_singleton.1 h
      exact hname
  · split_ifs at h
    · cases h
    · obtain rfl := List.mem_singleton.1 h
      exact hname

/-- What the findings of a line take over from it has neither blanks nor parentheses. -/
theorem isRun_of_mem_lineFindings {line : List Char} {f : Finding} (h : f ∈ lineFindings line) :
    IsRun f.borrowed := by
  unfold lineFindings at h
  dsimp only at h
  split_ifs at h
  · rcases List.mem_append.1 h with h | h
    · unfold formFindings at h
      split at h
      · cases h
      · next head rest hform =>
        have hhead : IsRun head := (leadingForm?_eq_some_iff.1 hform).2
        split_ifs at h
        · exact isRun_of_mem_functionFindings hhead h
        · exact List.mem_singleton.1 h ▸ isRun_nil
        · cases h
        · exact List.mem_singleton.1 h ▸ isRun_nil
        · cases h
        · cases h
    · unfold callerFindings at h
      split_ifs at h
      · exact List.mem_singleton.1 h ▸ isRun_nil
      · cases h
  · cases h

/-- A verdict has the diagnostics that it sorts, each as often. -/
theorem Verdict.perm_ofDiagnostics (ds : List Diagnostic) :
    (ofDiagnostics ds).diagnostics.Perm ds :=
  List.filter_append_perm Diagnostic.isError ds

/-- Each diagnostic of a document reports a finding that keeps its line. -/
theorem exists_finding {source : List Char} {d : Diagnostic} (h : d ∈ diagnostics source) :
    ∃ f n, d = Finding.onLine f n ∧ f.KeepsLine := by
  have hnil {f : Finding} (hf : f.borrowed = []) : f.KeepsLine :=
    keepsLine_of_isRun (by rw [hf]; exact isRun_nil)
  simp only [diagnostics, List.mem_append] at h
  rcases h with ((h | h) | h) | h
  · rw [balanceDiagnostics, List.mem_append] at h
    rcases h with h | h
    · obtain ⟨n, -, rfl⟩ := List.mem_map.1 h
      exact ⟨_, n, rfl, hnil rfl⟩
    · split_ifs at h
      · cases h
      · exact ⟨_, _, List.mem_singleton.1 h, hnil rfl⟩
  · exact ⟨_, 1, mem_declarationDiagnostics h, hnil rfl⟩
  · obtain ⟨i, hi, f, hf, rfl⟩ := mem_linesDiagnostics.1 h
    exact ⟨f, _, rfl, keepsLine_of_isRun (isRun_of_mem_lineFindings hf)⟩
  · exact ⟨_, 1, mem_responseDiagnostics h, hnil rfl⟩

end Lint

namespace Report

open Text Lint

/-! ## Reading a report -/

/-- The last line of a report. -/
def closing (v : Verdict) : List Char :=
  if v.diagnostics = [] then "no structural issues found".toList
  else Nat.toDigits 10 v.errors.length ++
    (" error(s), ".toList ++ (Nat.toDigits 10 v.warnings.length ++ " warning(s)".toList))

theorem newline_not_mem_toDigits (n : Nat) : '\n' ∉ Nat.toDigits 10 n := by
  intro hm
  exact absurd (Json.isDigit_of_mem_toDigits _ hm) (by decide)

theorem newline_not_mem_closing (v : Verdict) : '\n' ∉ closing v := by
  unfold closing
  split_ifs
  · decide
  · simp [newline_not_mem_toDigits]

theorem newline_not_mem_text {d : Diagnostic} (h : '\n' ∉ d.message.toList) :
    '\n' ∉ d.text.toList := by
  have hname : '\n' ∉ d.severity.name.toList := by cases d.severity <;> decide
  simp [toList_text, h, newline_not_mem_toDigits, hname]

theorem document_append {lines : List (List Char)} (hne : lines ≠ []) (before : List (List Char)) :
    document (before ++ lines) = before.flatMap (· ++ ['\n']) ++ document lines := by
  induction before with
  | nil => rfl
  | cons l before ih =>
    obtain ⟨m, ms, hm⟩ := List.exists_cons_of_ne_nil (List.append_ne_nil_of_right_ne_nil before hne)
    rw [List.cons_append, hm, document_cons_cons, ← hm, ih, List.flatMap_cons, List.append_assoc,
      List.append_assoc, List.singleton_append]

/-- A report is the document of its lines. -/
theorem toList_lintText (v : Verdict) :
    (lintText v).toList = document (v.diagnostics.map (·.text.toList) ++ [closing v, []]) := by
  have hlines : (String.join (v.diagnostics.map (·.text ++ "\n"))).toList =
      (v.diagnostics.map (·.text.toList)).flatMap (· ++ ['\n']) := by
    simp [String.toList_join, List.flatMap_map]
  rw [document_append (by simp), document_cons_cons, document_singleton, lintText,
    String.toList_append, hlines, closing]
  simp only [List.isEmpty_iff]
  split_ifs
  · rfl
  · simp

/-- The lines of a report whose messages stay on theirs. -/
theorem splitLines_lintText {v : Verdict} (h : ∀ d ∈ v.diagnostics, '\n' ∉ d.message.toList) :
    splitLines (lintText v).toList = v.diagnostics.map (·.text.toList) ++ [closing v, []] := by
  rw [toList_lintText, splitLines_document (by simp)]
  intro l hl
  rcases List.mem_append.1 hl with hl | hl
  · obtain ⟨d, hd, rfl⟩ := List.mem_map.1 hl
    exact newline_not_mem_text (h d hd)
  · simp only [List.mem_cons, List.not_mem_nil, or_false] at hl
    rcases hl with rfl | rfl
    · exact newline_not_mem_closing v
    · exact List.not_mem_nil

theorem counts?_closing {v : Verdict} (h : v.diagnostics ≠ []) :
    counts? (closing v) = some (v.errors.length, v.warnings.length) := by
  rw [closing, if_neg h, counts?_eq_some_iff]

theorem counts?_text (d : Diagnostic) : counts? d.text.toList = none := by
  cases hcounts : counts? d.text.toList with
  | none => rfl
  | some p =>
    have := ofLine?_of_counts? hcounts
    rw [ofLine?_eq_some_iff.2 rfl] at this
    cases this

theorem ofLine?_closing (v : Verdict) : Diagnostic.ofLine? (closing v) = none := by
  by_cases h : v.diagnostics = []
  · rw [closing, if_pos h]
    decide
  · exact ofLine?_of_counts? (counts?_closing h)

/-- A text reads back as a verdict when it is taken apart at its line feeds. -/
structure ReadsBack (text : String) (v : Verdict) : Prop where
  /-- The text is the line that tells of no diagnostic exactly when there is none. -/
  clean : text = "no structural issues found\n" ↔ v.errors ++ v.warnings = []
  /-- There are lines of diagnostics, errors first, and one line that counts them. -/
  listed : v.errors ++ v.warnings ≠ [] →
    ∃ lines last, splitLines text.toList = lines ++ [last, []] ∧
    lines.map Diagnostic.ofLine? = (v.errors ++ v.warnings).map some ∧
    counts? last = some (v.errors.length, v.warnings.length)
  /-- No line but these reads as a diagnostic. -/
  diagnostics : (splitLines text.toList).filterMap Diagnostic.ofLine? = v.errors ++ v.warnings
  /-- No line but this one reads as counts. -/
  counts : (splitLines text.toList).filterMap counts? =
    if v.errors ++ v.warnings = [] then [] else [(v.errors.length, v.warnings.length)]

theorem readsBack_lintText {v : Verdict} (h : ∀ d ∈ v.diagnostics, '\n' ∉ d.message.toList) :
    ReadsBack (lintText v) v := by
  have hlines := splitLines_lintText h
  have hdiagnostics : (splitLines (lintText v).toList).filterMap Diagnostic.ofLine? =
      v.diagnostics := by
    have hself : Diagnostic.ofLine? ∘ (fun d : Diagnostic => d.text.toList) = some :=
      funext fun d => ofLine?_eq_some_iff.2 rfl
    rw [hlines, List.filterMap_append, List.filterMap_map, hself, List.filterMap_some,
      List.filterMap_cons_none (ofLine?_closing v)]
    exact List.append_nil _
  refine ⟨⟨?_, ?_⟩, ?_, hdiagnostics, ?_⟩
  · intro htext
    rw [htext] at hdiagnostics
    exact hdiagnostics.symm.trans (by decide)
  · intro hnone
    rw [lintText, show v.diagnostics = [] from hnone]
    rfl
  · intro hsome
    refine ⟨_, _, hlines, ?_, counts?_closing hsome⟩
    rw [List.map_map]
    exact List.map_congr_left fun d _ => ofLine?_eq_some_iff.2 rfl
  · have hnone : (v.diagnostics.map (·.text.toList)).filterMap counts? = [] := by
      rw [List.filterMap_map, List.filterMap_eq_nil_iff]
      exact fun d _ => counts?_text d
    rw [hlines, List.filterMap_append, hnone, List.nil_append]
    split_ifs with hempty
    · rw [show closing v = _ from if_pos hempty]
      decide
    · rw [List.filterMap_cons_some (counts?_closing hempty)]
      rfl

/-- The report of the structural check on any document reads back as its verdict. It has a line for
each finding, and the message of a finding keeps its line whatever names it takes over from the
document. -/
theorem lint_reads_back (source : String) :
    ReadsBack (lint (Lint.check source) .human) (Lint.check source) ∧
      ((Lint.check source).errors ++ (Lint.check source).warnings).Perm
        (Lint.diagnostics source.toList) ∧
      ∀ d ∈ Lint.diagnostics source.toList, ∃ f n, d = Finding.onLine f n ∧ f.KeepsLine := by
  have hperm : (Lint.check source).diagnostics.Perm (Lint.diagnostics source.toList) :=
    Verdict.perm_ofDiagnostics _
  have hmessages : ∀ d ∈ (Lint.check source).diagnostics, '\n' ∉ d.message.toList := by
    intro d hd
    obtain ⟨f, n, rfl, hf⟩ := exists_finding (hperm.mem_iff.1 hd)
    exact hf.oneLine
  exact ⟨readsBack_lintText hmessages, hperm, fun d hd => exists_finding hd⟩

example : lint (Lint.check "(define-private (Get) u1)\n(define-map m)") .human =
    "line 1: error: invalid identifier 'Get'"
      ++ ": function names may only use lowercase letters, digits, '-', '?' and '!'\n"
      ++ "line 2: error: define-map requires a name, a key type and a value type\n"
      ++ "line 1: warning: function 'Get' should return a success/failure response (ok or err)\n"
      ++ "2 error(s), 1 warning(s)\n" := by
  decide +kernel

end Report

end ClarityCheck
