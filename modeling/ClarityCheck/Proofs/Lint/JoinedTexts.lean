import ClarityCheck.Proofs.Lint.DiagnosticKind
import ClarityCheck.Proofs.Lint.LineMargins

/-!
# Two texts in one document

But for parentheses, the check of two texts with a line feed between them finds what it finds in
each of them: the findings of the lines of both, a missing declaration when one has code and none
declares anything, and a missing response when one has a public function and none builds a response.

* `linesDiagnostics_append`: the diagnostics of the lines of both texts
* `reports_noDeclaration_iff`, `reports_noResponse_iff`: the findings on whole documents
* `inOrder_check`: the order of the diagnostics
* `check_joined`: the check of both texts together
-/

namespace ClarityCheck.Lint

open Text

/-! ## Lines -/

theorem splitLines_append_cons (s t : List Char) :
    splitLines (s ++ '\n' :: t) = splitLines s ++ splitLines t := by
  induction s with
  | nil => rfl
  | cons c s ih =>
    rw [List.cons_append, splitLines, splitLines, splitOn_cons, splitOn_cons, ← splitLines,
      ← splitLines, ih]
    split
    · rfl
    · obtain ⟨l, ls, hl⟩ := List.exists_cons_of_ne_nil (splitLines_ne_nil s)
      rw [hl]
      rfl

/-- The diagnostic further down. -/
def Diagnostic.moved (n : Nat) (d : Diagnostic) : Diagnostic := { d with line := d.line + n }

theorem linesDiagnostics_add (start n : Nat) (lines : List (List Char)) :
    linesDiagnostics (start + n) lines = (linesDiagnostics start lines).map
      (Diagnostic.moved n) := by
  induction lines generalizing start with
  | nil => rfl
  | cons l ls ih =>
    rw [linesDiagnostics, linesDiagnostics, List.map_append, List.map_map, Nat.add_right_comm, ih]
    rfl

theorem linesDiagnostics_append (start : Nat) (lines others : List (List Char)) :
    linesDiagnostics start (lines ++ others) =
      linesDiagnostics start lines ++ (linesDiagnostics start others).map
        (Diagnostic.moved lines.length) := by
  rw [← linesDiagnostics_add]
  induction lines generalizing start with
  | nil => rfl
  | cons l ls ih =>
    rw [List.cons_append, linesDiagnostics, linesDiagnostics, ih, List.append_assoc,
      List.length_cons, Nat.add_right_comm, Nat.add_assoc]

/-! ## Whole documents -/

/-- A line of the text is neither blank nor a comment. -/
def HasCode (source : List Char) : Prop :=
  ∃ l ∈ splitLines source, trim l ≠ [] ∧ (trim l).head? ≠ some ';'

/-- The text declares something. -/
def Declares (source : List Char) : Prop := ∃ keyword ∈ declarationKeywords, HasForm keyword source

/-- The text builds a response. -/
def Responds (source : List Char) : Prop := HasForm "ok".toList source ∨ HasForm "err".toList source

theorem isCode_iff (line : List Char) : isCode line = true ↔ line ≠ [] ∧ line.head? ≠ some ';' := by
  simp [isCode, isComment]

theorem any_isCode_iff (source : List Char) :
    (splitLines source).any (fun l => isCode (trim l)) = true ↔ HasCode source := by
  rw [List.any_eq_true]
  exact exists_congr fun l => and_congr_right fun _ => isCode_iff (trim l)

theorem responds_iff (source : List Char) :
    containsAnyForm responseHeads source = true ↔ Responds source := by
  rw [containsAnyForm_iff]
  simp [responseHeads, Responds]

/-- A missing declaration is reported in documents with code that declare nothing. -/
theorem reports_noDeclaration_iff (source : String) :
    (∃ d ∈ (check source).errors, d.kind = .noDeclaration) ↔
      HasCode source.toList ∧ ¬Declares source.toList := by
  have hdeclaration : Finding.noDeclaration.onLine 1 ∈
      declarationDiagnostics source.toList (splitLines source.toList) ↔
        HasCode source.toList ∧ ¬Declares source.toList := by
    rw [declarationDiagnostics, List.mem_ite_nil_right, Bool.and_eq_true, Bool.not_eq_true',
      any_isCode_iff, ← Bool.not_eq_true, containsAnyForm_iff]
    exact and_iff_left List.mem_cons_self
  rw [← hdeclaration, errors_check]
  constructor
  · rintro ⟨d, hd, hkind⟩
    rw [List.append_assoc, List.mem_append, List.mem_append] at hd
    rcases hd with hd | hd | hd
    · exact absurd hkind
        (ne_of_apply_ne Kind.isOfBalance (by rw [(mem_balanceDiagnostics hd).2]; decide))
    · rwa [← mem_declarationDiagnostics hd]
    · have hline := isOfLine_of_mem_linesDiagnostics (List.mem_filter.1 hd).1
      exact absurd hkind (ne_of_apply_ne Kind.isOfLine (by rw [hline]; decide))
  · intro hd
    exact ⟨_, List.mem_append_left _ (List.mem_append_right _ hd), kind_onLine _ _⟩

/-- A missing response is reported in documents with a public function that build no response. -/
theorem reports_noResponse_iff (source : String) :
    (∃ d ∈ (check source).warnings, d.kind = .noResponse) ↔
      HasForm publicFunction source.toList ∧ ¬Responds source.toList := by
  have hresponse : Finding.noResponse.onLine 1 ∈ responseDiagnostics source.toList ↔
      HasForm publicFunction source.toList ∧ ¬Responds source.toList := by
    rw [responseDiagnostics, List.mem_ite_nil_right, Bool.and_eq_true, Bool.not_eq_true',
      containsForm_iff, ← Bool.not_eq_true, responds_iff]
    exact and_iff_left List.mem_cons_self
  rw [← hresponse, warnings_check]
  constructor
  · rintro ⟨d, hd, hkind⟩
    rcases List.mem_append.1 hd with hd | hd
    · have hline := isOfLine_of_mem_linesDiagnostics (List.mem_filter.1 hd).1
      exact absurd hkind (ne_of_apply_ne Kind.isOfLine (by rw [hline]; decide))
    · rwa [← mem_responseDiagnostics hd]
  · intro hd
    exact ⟨_, List.mem_append_right _ hd, kind_onLine _ _⟩

section

variable (s t : List Char)

theorem hasCode_append_cons : HasCode (s ++ '\n' :: t) ↔ HasCode s ∨ HasCode t := by
  unfold HasCode
  rw [splitLines_append_cons]
  simp only [List.mem_append, or_and_right, exists_or]

/-- No form goes over the end of a line, since a blank is in no head. -/
theorem hasForm_append_cons {head : List Char} (hh : IsHead head) :
    HasForm head (s ++ '\n' :: t) ↔ HasForm head s ∨ HasForm head t := by
  rw [← containsForm_iff, containsForm_append_blank (by decide) (hh.not_mem (by decide)),
    Bool.or_eq_true, containsForm_iff, containsForm_iff]

theorem declares_append_cons : Declares (s ++ '\n' :: t) ↔ Declares s ∨ Declares t := by
  unfold Declares
  rw [← exists_or]
  refine exists_congr fun keyword => ?_
  rw [← and_or_left]
  exact and_congr_right fun hk => hasForm_append_cons s t (isHead_declarationKeywords keyword hk)

theorem responds_append_cons : Responds (s ++ '\n' :: t) ↔ Responds s ∨ Responds t := by
  unfold Responds
  rw [hasForm_append_cons s t (isHead_responseHeads _ (by decide)),
    hasForm_append_cons s t (isHead_responseHeads _ (by decide))]
  exact or_or_or_comm

end

/-! ## The order of the diagnostics -/

/-- Diagnostics go from the first line to the last. -/
def Descends (ds : List Diagnostic) : Prop := ds.Pairwise fun d e => d.line ≤ e.line

/-- The diagnostics of a document of some number of lines stand in their order. -/
structure InOrder (lines : Nat) (v : Verdict) : Prop where
  /-- Errors on parentheses come first, then the missing declaration, then the errors of lines. -/
  errors : ∃ balance declaration, v.errors = balance ++ declaration ++ ofLines v.errors ∧
    (∀ d ∈ balance, d.kind = .strayCloser ∨ d.kind = .unclosed) ∧
    (∀ d ∈ declaration, d.kind = .noDeclaration) ∧ declaration.length ≤ 1
  /-- The warnings of lines come first, then the missing response. -/
  warnings : ∃ response, v.warnings = ofLines v.warnings ++ response ∧
    (∀ d ∈ response, d.kind = .noResponse) ∧ response.length ≤ 1
  errorsDescend : Descends (ofLines v.errors)
  warningsDescend : Descends (ofLines v.warnings)
  /-- Every diagnostic is on a line of the document. -/
  onLines : ∀ d ∈ v.errors ++ v.warnings, 1 ≤ d.line ∧ d.line ≤ lines

theorem descends_linesDiagnostics (start : Nat) (lines : List (List Char)) :
    Descends (linesDiagnostics start lines) := by
  induction lines generalizing start with
  | nil => exact List.Pairwise.nil
  | cons l ls ih =>
    rw [linesDiagnostics]
    refine List.pairwise_append.2 ⟨?_, ih (start + 1), ?_⟩
    · exact List.pairwise_map.2 (List.pairwise_of_forall fun _ _ => le_rfl)
    · intro d hd e he
      obtain ⟨f, -, rfl⟩ := List.mem_map.1 hd
      obtain ⟨i, -, g, -, rfl⟩ := mem_linesDiagnostics.1 he
      show start ≤ start + 1 + i
      omega

theorem line_scanBalance {line depth n : Nat} {lines : List (List Char)}
    (h : n ∈ (scanBalance line depth lines).1) : line ≤ n ∧ n < line + lines.length := by
  induction lines generalizing line depth with
  | nil => cases h
  | cons l ls ih =>
    rw [scanBalance] at h
    rcases List.mem_append.1 h with h | h
    · rw [List.eq_of_mem_replicate h, List.length_cons]
      omega
    · have := ih h
      rw [List.length_cons]
      omega

theorem line_of_mem_diagnostics {source : String} {d : Diagnostic}
    (h : d ∈ diagnostics source.toList) :
    1 ≤ d.line ∧ d.line ≤ (splitLines source.toList).length := by
  have hlines : 1 ≤ (splitLines source.toList).length :=
    List.length_pos_iff.2 (splitLines_ne_nil source.toList)
  rw [diagnostics, List.append_assoc, List.append_assoc, List.mem_append, List.mem_append,
    List.mem_append, balanceDiagnostics, List.mem_append] at h
  rcases h with (h | h) | h | h | h
  · obtain ⟨n, hn, rfl⟩ := List.mem_map.1 h
    have := line_scanBalance hn
    show 1 ≤ n ∧ n ≤ _
    omega
  · split at h
    · cases h
    · rw [List.mem_singleton.1 h]
      exact ⟨hlines, le_rfl⟩
  · rw [mem_declarationDiagnostics h]
    exact ⟨le_rfl, hlines⟩
  · obtain ⟨i, hi, f, -, rfl⟩ := mem_linesDiagnostics.1 h
    show 1 ≤ 1 + i ∧ 1 + i ≤ _
    omega
  · rw [mem_responseDiagnostics h]
    exact ⟨le_rfl, hlines⟩

/-- The diagnostics of every document stand in their order. -/
theorem inOrder_check (source : String) :
    InOrder (splitLines source.toList).length (check source) where
  errors := by
    refine ⟨balanceDiagnostics (splitLines source.toList),
      declarationDiagnostics source.toList (splitLines source.toList), ?_, ?_, ?_, ?_⟩
    · rw [ofLines_errors, errors_check]
    · intro d hd
      have := (mem_balanceDiagnostics hd).2
      cases hk : d.kind with
      | strayCloser => exact .inl rfl
      | unclosed => exact .inr rfl
      | _ => rw [hk] at this; cases this
    · intro d hd
      rw [mem_declarationDiagnostics hd, kind_onLine]
      rfl
    · rw [declarationDiagnostics]
      split <;> simp
  warnings := by
    refine ⟨responseDiagnostics source.toList, ?_, ?_, ?_⟩
    · rw [ofLines_warnings, warnings_check]
    · intro d hd
      rw [mem_responseDiagnostics hd, kind_onLine]
      rfl
    · rw [responseDiagnostics]
      split <;> simp
  errorsDescend := by
    rw [ofLines_errors]
    exact (descends_linesDiagnostics 1 _).sublist List.filter_sublist
  warningsDescend := by
    rw [ofLines_warnings]
    exact (descends_linesDiagnostics 1 _).sublist List.filter_sublist
  onLines := by
    intro d hd
    rcases List.mem_append.1 hd with hd | hd
    · exact line_of_mem_diagnostics (List.mem_filter.1 hd).1
    · exact line_of_mem_diagnostics (List.mem_filter.1 hd).1

/-! ## Both texts together -/

/-- The check of two texts with a line feed between them. The findings of single lines are those of
the first text followed by those of the second one further down; the findings on the whole document
depend on what both texts hold together; and the diagnostics stand in their order. -/
theorem check_joined (a b : String) :
    ofLines (check (a ++ "\n" ++ b)).errors = ofLines (check a).errors ++
        (ofLines (check b).errors).map (Diagnostic.moved (splitLines a.toList).length) ∧
      ofLines (check (a ++ "\n" ++ b)).warnings = ofLines (check a).warnings ++
        (ofLines (check b).warnings).map (Diagnostic.moved (splitLines a.toList).length) ∧
      ((∃ d ∈ (check (a ++ "\n" ++ b)).errors, d.kind = .noDeclaration) ↔
        (HasCode a.toList ∨ HasCode b.toList) ∧ ¬Declares a.toList ∧ ¬Declares b.toList) ∧
      ((∃ d ∈ (check (a ++ "\n" ++ b)).warnings, d.kind = .noResponse) ↔
        (HasForm publicFunction a.toList ∨ HasForm publicFunction b.toList) ∧
          ¬Responds a.toList ∧ ¬Responds b.toList) ∧
      ∀ source : String, InOrder (splitLines source.toList).length (check source) := by
  have hjoined : (a ++ "\n" ++ b).toList = a.toList ++ '\n' :: b.toList := by
    rw [String.toList_append, String.toList_append, List.append_assoc]
    rfl
  have hlines (p : Diagnostic → Bool) (hp : ∀ d, p (d.moved (splitLines a.toList).length) = p d) :
      (linesDiagnostics 1 (splitLines (a ++ "\n" ++ b).toList)).filter p =
        (linesDiagnostics 1 (splitLines a.toList)).filter p ++
          ((linesDiagnostics 1 (splitLines b.toList)).filter p).map
            (Diagnostic.moved (splitLines a.toList).length) := by
    have hmoved : p ∘ Diagnostic.moved (splitLines a.toList).length = p := funext hp
    rw [hjoined, splitLines_append_cons, linesDiagnostics_append, List.filter_append,
      List.filter_map, hmoved]
  refine ⟨?_, ?_, ?_, ?_, inOrder_check⟩
  · rw [ofLines_errors, ofLines_errors, ofLines_errors]
    exact hlines _ fun _ => rfl
  · rw [ofLines_warnings, ofLines_warnings, ofLines_warnings]
    exact hlines _ fun _ => rfl
  · rw [reports_noDeclaration_iff, hjoined, hasCode_append_cons, declares_append_cons, not_or]
  · rw [reports_noResponse_iff, hjoined, hasForm_append_cons _ _ isHead_publicFunction,
      responds_append_cons, not_or]

end ClarityCheck.Lint
