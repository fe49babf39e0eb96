import ClarityCheck.Proofs.Text.Trimming
import ClarityCheck.Proofs.Validation.FailureReason

/-!
# The two views of a success

A verdict lists the diagnostics of a run that succeeded line by line; the response that it leads to
has them as one text, which is the error stream without the blanks around it. The lines of that text
are the ones that the verdict lists. The response of any other run joins the errors of its verdict.

* `said_outputLines`: however lines end, the same is said in them
* `said_splitLines_trim`: blanks around a text are not among what its lines say
* `views_agree`: the verdict and the response of every outcome
-/

namespace ClarityCheck

namespace Text

/-! ## What lines say -/

/-- What lines say: each of them without the blanks around it, but for those that are blank. -/
def said (lines : List (List Char)) : List (List Char) := (lines.map trim).filter (· ≠ [])

theorem said_append (ls ls' : List (List Char)) : said (ls ++ ls') = said ls ++ said ls' := by
  rw [said, List.map_append, List.filter_append, ← said, ← said]

theorem said_congr {ls ls' : List (List Char)} (h : ls.map trim = ls'.map trim) :
    said ls = said ls' := by
  rw [said, h, ← said]

theorem said_eq_nil_iff {ls : List (List Char)} : said ls = [] ↔ ∀ l ∈ ls, trim l = [] := by
  simp [said]

/-- A carriage return at the end of a line is one of the blanks around it. -/
theorem trim_dropCarriageReturn (l : List Char) : trim (dropCarriageReturn l) = trim l := by
  unfold dropCarriageReturn
  split
  · next h =>
    have hreturn : ∀ c ∈ ['\r'], isBlank c = true := List.forall_mem_singleton.2 (by decide)
    have := trim_around (a := []) (by simp) hreturn l.dropLast
    rwa [List.nil_append, List.dropLast_append_getLast? '\r' h, eq_comm] at this
  · rfl

/-- The lines of captured output say what those between line feeds say. -/
theorem said_outputLines (s : List Char) : said (outputLines s) = said (splitLines s) := by
  unfold outputLines
  split
  · next h => rw [List.reverse_eq_nil_iff.1 h]
  · next last before h =>
    have hlines : splitLines s = before.reverse ++ [last] := by
      rw [← List.reverse_reverse (splitLines s), h, List.reverse_cons]
    have hbefore : said (before.reverse.map dropCarriageReturn) = said before.reverse :=
      said_congr
        (by rw [List.map_map]; exact List.map_congr_left fun l _ => trim_dropCarriageReturn l)
    rw [hlines, said_append, said_append, hbefore]
    split
    · next hlast => rw [hlast]; rfl
    · rfl

/-! ## Blanks around a text -/

theorem said_consToFirst {c : Char} (hc : isBlank c = true) (ls : List (List Char)) :
    said (consToFirst c ls) = said ls := by
  have hblank : ∀ d ∈ [c], isBlank d = true := List.forall_mem_singleton.2 hc
  cases ls with
  | nil => exact said_eq_nil_iff.2 (List.forall_mem_singleton.2 ((trim_eq_nil_iff [c]).2 hblank))
  | cons l ls =>
    refine said_congr (congrArg (· :: ls.map trim) ?_)
    simpa using trim_around hblank (b := []) (by simp) l

theorem said_splitLines_cons {c : Char} (hc : isBlank c = true) (s : List Char) :
    said (splitLines (c :: s)) = said (splitLines s) := by
  rw [splitLines, splitOn_cons]
  split
  · rfl
  · exact said_consToFirst hc _

/-- A character behind a text goes to its last piece, or begins a new one. -/
theorem splitOn_concat (sep c : Char) (s : List Char) : ∃ before last,
    splitOn sep s = before ++ [last] ∧
      splitOn sep (s ++ [c]) = before ++ if c = sep then [last, []] else [last ++ [c]] := by
  induction s with
  | nil => exact ⟨[], [], rfl, by rw [List.nil_append, splitOn_cons]; rfl⟩
  | cons d s ih =>
    obtain ⟨before, last, hs, hc⟩ := ih
    rw [List.cons_append, splitOn_cons, splitOn_cons, hs, hc]
    split
    · exact ⟨[] :: before, last, rfl, rfl⟩
    · cases before with
      | nil => exact ⟨[], d :: last, rfl, by split <;> rfl⟩
      | cons l before => exact ⟨(d :: l) :: before, last, rfl, rfl⟩

theorem said_splitLines_concat {c : Char} (hc : isBlank c = true) (s : List Char) :
    said (splitLines (s ++ [c])) = said (splitLines s) := by
  obtain ⟨before, last, hs, h⟩ := splitOn_concat '\n' c s
  rw [splitLines, splitLines, hs, h, said_append, said_append]
  split
  · rw [← List.singleton_append, said_append]
    exact congrArg (said before ++ ·) (List.append_nil _)
  · refine congrArg (said before ++ ·) (said_congr (congrArg ([·]) ?_))
    simpa using trim_around (a := []) (by simp) (List.forall_mem_singleton.2 hc) last

/-- The lines of a text say what those of its trimmed part say. -/
theorem said_splitLines_trim (s : List Char) :
    said (splitLines (trim s)) = said (splitLines s) := by
  have hbefore {a : List Char} (ha : ∀ c ∈ a, isBlank c = true) (t : List Char) :
      said (splitLines (a ++ t)) = said (splitLines t) := by
    induction a with
    | nil => rfl
    | cons c a ih =>
      obtain ⟨hc, ha⟩ := List.forall_mem_cons.1 ha
      rw [List.cons_append, said_splitLines_cons hc, ih ha]
  have hafter {b : List Char} (hb : ∀ c ∈ b, isBlank c = true) (t : List Char) :
      said (splitLines (t ++ b)) = said (splitLines t) := by
    induction b generalizing t with
    | nil => rw [List.append_nil]
    | cons c b ih =>
      obtain ⟨hc, hb⟩ := List.forall_mem_cons.1 hb
      rw [← List.singleton_append, ← List.append_assoc, ih hb, said_splitLines_concat hc]
  obtain ⟨a, b, ha, hb, hs⟩ := exists_blanks s
  conv_rhs => rw [hs, hafter hb, hbefore ha]

theorem exists_mem_splitOn {sep c : Char} {s : List Char} (hc : c ∈ s) (hne : c ≠ sep) :
    ∃ l ∈ splitOn sep s, c ∈ l := by
  induction s with
  | nil => exact absurd hc List.not_mem_nil
  | cons d s ih =>
    obtain ⟨l, ls, hl⟩ := List.exists_cons_of_ne_nil (splitOn_ne_nil sep s)
    rw [hl] at ih
    rw [splitOn_cons, hl]
    rcases List.mem_cons.1 hc with rfl | hc
    · rw [if_neg hne]
      exact ⟨c :: l, List.mem_cons_self, List.mem_cons_self⟩
    · obtain ⟨m, hm, hcm⟩ := ih hc
      split
      · exact ⟨m, List.mem_cons_of_mem _ hm, hcm⟩
      · rcases List.mem_cons.1 hm with rfl | hm
        · exact ⟨d :: m, List.mem_cons_self, List.mem_cons_of_mem d hcm⟩
        · exact ⟨m, List.mem_cons_of_mem _ hm, hcm⟩

/-- The lines of a text say nothing exactly when all of it is blank. -/
theorem said_splitLines_eq_nil_iff (s : List Char) : said (splitLines s) = [] ↔ trim s = [] := by
  constructor
  · intro h
    rw [trim_eq_nil_iff]
    intro c hc
    by_cases hfeed : c = '\n'
    · rw [hfeed]
      decide
    · obtain ⟨l, hl, hcl⟩ := exists_mem_splitOn hc hfeed
      exact (trim_eq_nil_iff l).1 (said_eq_nil_iff.1 h l hl) c hcl
  · intro h
    rw [← said_splitLines_trim, h]
    rfl

end Text

namespace Validation

open Text

/-! ## Verdicts and responses -/

theorem diagnosticLines_eq (text : String) :
    diagnosticLines text = (said (splitLines text.toList)).map String.ofList := by
  rw [← said_outputLines, diagnosticLines, said]
  conv_rhs => rw [← List.filterMap_eq_map, List.filterMap_filter]
  refine List.filterMap_congr fun l _ => ?_
  cases l <;> rfl

theorem trimString_eq_empty_iff (text : String) :
    trimString text = "" ↔ isBlankString text = true := by
  rw [isBlankString, List.all_eq_true, ← trim_eq_nil_iff, trimString]
  exact String.ofList_eq_empty_iff

/-- The response to a run and its verdict agree that the run was a success and on what it had to
say. -/
structure Agree (o : Run.Output) (v : Verdict) (r : Response) : Prop where
  success : v.success = true ∧ r.success = true
  /-- The output is what the run printed, or a text of its own when it printed nothing. -/
  output : r.output = if isBlankString o.stdout then successOutput else trimString o.stdout
  speaks : SaysSomething r.output
  /-- There are diagnostics in the response exactly when the verdict lists some. -/
  present : r.errors.isSome = true ↔ v.errors ≠ []
  /-- The lines of the diagnostics are those that the verdict lists, whether they end in line feeds
  or in carriage returns and line feeds. -/
  lines : ∀ d, r.errors = some d → (said (splitLines d.toList)).map String.ofList = v.errors ∧
    (said (outputLines d.toList)).map String.ofList = v.errors

theorem agree_classify {o : Run.Output} (h : o.status = some 0) :
    Agree o (Verdict.classify (.ok o)) (Verdict.classify (.ok o)).toResponse := by
  have hsuccess : o.success = true := by simp [Run.Output.success, h]
  have hverdict :
      Verdict.classify (.ok o) = ⟨true, o.stdout, o.stderr, diagnosticLines o.stderr⟩ := by
    rw [Verdict.classify, if_pos hsuccess]
  have hresponse : (Verdict.classify (.ok o)).toResponse =
      ⟨true, if trimString o.stdout = "" then successOutput else trimString o.stdout,
        if trimString o.stderr = "" then none else some (trimString o.stderr)⟩ := by
    rw [hverdict]
    rfl
  have hnil : diagnosticLines o.stderr = [] ↔ trimString o.stderr = "" := by
    rw [diagnosticLines_eq, List.map_eq_nil_iff, said_splitLines_eq_nil_iff, trimString,
      String.ofList_eq_empty_iff]
  rw [hresponse, hverdict]
  refine ⟨⟨rfl, rfl⟩, ?_, ?_, ?_, ?_⟩
  · simp only [trimString_eq_empty_iff]
  · by_cases hout : trimString o.stdout = ""
    · simp only [hout, if_true]
      exact saysSomething_of_head rfl (by decide)
    · simp only [hout, if_false]
      rw [saysSomething_iff, ← Bool.not_eq_true, ← trimString_eq_empty_iff, trimString, trimString,
        String.toList_ofList, trim_trim]
      exact hout
  · simp only [ne_eq, hnil]
    split <;> simp [*]
  · intro d hd
    have hd' : d = trimString o.stderr := by
      by_cases herr : trimString o.stderr = ""
      · simp [herr] at hd
      · simpa [herr, eq_comm] using hd
    rw [said_outputLines, hd', trimString, String.toList_ofList, said_splitLines_trim,
      ← diagnosticLines_eq]
    exact ⟨rfl, rfl⟩

/-- The verdict and the response of a run with exit status zero agree. Every other outcome leads to
a response without output whose errors are those of the verdict, each on lines of its own. -/
theorem views_agree (outcome : Run.Outcome) :
    (∀ o, outcome = .ok o → o.status = some 0 →
      Agree o (Verdict.classify outcome) (Verdict.classify outcome).toResponse) ∧
    ((∀ o, outcome = .ok o → o.status ≠ some 0) →
      (Verdict.classify outcome).success = false ∧
        (Verdict.classify outcome).toResponse =
          ⟨false, "", some ("\n".intercalate (Verdict.classify outcome).errors)⟩) := by
  constructor
  · rintro o rfl h
    exact agree_classify h
  · intro h
    have hfails : (Verdict.classify outcome).success = false := by
      cases outcome with
      | error f => rfl
      | ok o =>
        have hstatus : ¬o.success = true := by simpa [Run.Output.success] using h o rfl
        rw [Verdict.classify, if_neg hstatus]
    refine ⟨hfails, ?_⟩
    rw [Verdict.toResponse, if_neg (by simp [hfails])]
    rfl

end Validation

end ClarityCheck
