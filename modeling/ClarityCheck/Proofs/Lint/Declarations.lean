import ClarityCheck.Proofs.Lint.FunctionName
import ClarityCheck.Proofs.Lint.JoinedTexts

/-!
# Declarations on lines and in documents

The check looks for declarations twice: in the whole document, behind any opening parenthesis, and
on each line, at its beginning. What the second search takes for a declaration the first one finds
as well, so that a document in which no declaration was found has no finding that needs one.

* `hasForm_of_line`: a form on a line is a form of the document
* `opens_of_needsDeclaration`: the findings of lines that need a declaration
* `declarations_recognised`: both searches agree
-/

namespace ClarityCheck.Lint

open Text

/-- The keywords of the declarations that are looked into on a line. -/
def lineKeywords : List (List Char) := functionKeywords ++ [dataVar, dataMap]

/-- The kinds of findings on something that is declared: the name and the result of a function, the
parts of a data variable or a map, and the missing response of public functions. -/
def Kind.needsDeclaration : Kind → Bool
  | .missingName | .invalidName | .noResult | .shortDataVar | .shortDataMap | .noResponse => true
  | _ => false

theorem Kind.isOfBalance_of_needsDeclaration {k : Kind} (h : k.needsDeclaration = true) :
    k.isOfBalance = false := by
  cases k with
  | strayCloser | unclosed => cases h
  | _ => rfl

theorem lineKeywords_subset : lineKeywords ⊆ declarationKeywords := by
  intro keyword hk
  have hall : lineKeywords.all (declarationKeywords.contains ·) = true := by decide
  exact List.contains_iff_mem.1 (List.all_eq_true.1 hall keyword hk)

/-! ## Lines -/

/-- A form on a line is a form of the document. -/
theorem hasForm_of_line {source line head : List Char} (hh : IsHead head)
    (hline : line ∈ splitLines source) (h : HasForm head line) : HasForm head source := by
  rw [← document_splitLines source, ← containsForm_iff,
    containsForm_document (hh.not_mem (by decide)), List.any_eq_true]
  exact ⟨line, hline, containsForm_iff.2 h⟩

/-- A form that a line opens with is a form of the document. -/
theorem Opens.hasForm_document {source line keyword rest : List Char}
    (hk : keyword ∈ declarationKeywords) (hline : line ∈ splitLines source)
    (h : Opens line keyword rest) : HasForm keyword source :=
  hasForm_of_line (isHead_declarationKeywords keyword hk) hline h.hasForm

/-- A finding on something that is declared is one on a line that opens with a declaration. -/
theorem opens_of_needsDeclaration {line : List Char} {f : Finding} (h : f ∈ lineFindings line)
    (hneeds : f.kind.needsDeclaration = true) :
    ∃ keyword ∈ lineKeywords, ∃ rest, Opens line keyword rest := by
  have hform : f ∈ formFindings (trim line) := by
    dsimp only [lineFindings] at h
    split at h
    · rcases List.mem_append.1 h with h | h
      · exact h
      · -- The use of the caller's identity needs no declaration.
        unfold callerFindings at h
        split at h
        · rw [List.mem_singleton.1 h] at hneeds
          cases hneeds
        · cases h
    · cases h
  unfold formFindings at hform
  split at hform
  · cases hform
  · next head rest hlead =>
    refine ⟨head, ?_, rest, (leadingForm?_eq_some_iff.1 hlead).1⟩
    by_contra hhead
    simp only [lineKeywords, List.mem_append, List.mem_cons, List.not_mem_nil, or_false, not_or]
      at hhead
    obtain ⟨hfunction, hvar, hmap⟩ := hhead
    rw [if_neg (by rwa [List.contains_iff_mem]), if_neg (by rwa [beq_iff_eq]),
      if_neg (by rwa [beq_iff_eq])]
      at hform
    cases hform

/-! ## Documents -/

/-- A document with a diagnostic on something that is declared declares something. -/
theorem declares_of_needsDeclaration {source : String} {d : Diagnostic}
    (hd : d ∈ (check source).errors ++ (check source).warnings)
    (hneeds : d.kind.needsDeclaration = true) :
    Declares source.toList := by
  have hline : d ∈ linesDiagnostics 1 (splitLines source.toList) → Declares source.toList := by
    intro hd
    obtain ⟨i, hi, f, hf, rfl⟩ := mem_linesDiagnostics.1 hd
    rw [kind_onLine] at hneeds
    obtain ⟨keyword, hk, rest, hopens⟩ := opens_of_needsDeclaration hf hneeds
    exact ⟨keyword, lineKeywords_subset hk,
      hopens.hasForm_document (lineKeywords_subset hk) (List.getElem_mem hi)⟩
  rw [List.mem_append, errors_check, warnings_check, List.append_assoc, List.mem_append,
    List.mem_append, List.mem_append] at hd
  rcases hd with (hd | hd | hd) | hd | hd
  · have hbalance := (mem_balanceDiagnostics hd).2
    rw [Kind.isOfBalance_of_needsDeclaration hneeds] at hbalance
    cases hbalance
  · rw [mem_declarationDiagnostics hd, kind_onLine] at hneeds
    cases hneeds
  · exact hline (List.mem_filter.1 hd).1
  · exact hline (List.mem_filter.1 hd).1
  · have hpublic : HasForm publicFunction source.toList := by
      refine ((reports_noResponse_iff source).1 ⟨d, ?_, ?_⟩).1
      · rw [warnings_check]
        exact List.mem_append_right _ hd
      · rw [mem_responseDiagnostics hd, kind_onLine]
        rfl
    exact ⟨publicFunction, by decide, hpublic⟩

/-- Both searches for declarations agree. Where a missing declaration is reported, nothing that
needs a declaration is; a line that opens with a function, a data variable or a map is a declaration
of the document, so that none is reported as missing; and a line that opens with a public function
makes the document answer for its responses. -/
theorem declarations_recognised (source : String) :
    ((∃ d ∈ (check source).errors, d.kind = .noDeclaration) →
      ∀ d ∈ (check source).errors ++ (check source).warnings, d.kind.needsDeclaration = false) ∧
    ∀ line ∈ splitLines source.toList, ∀ keyword ∈ lineKeywords, ∀ rest,
      leadingForm? (trim line) = some (keyword, rest) →
        containsAnyForm declarationKeywords source.toList = true ∧
        (∀ d ∈ (check source).errors, d.kind ≠ .noDeclaration) ∧
        (keyword = publicFunction → containsForm publicFunction source.toList = true ∧
          ((∃ d ∈ (check source).warnings, d.kind = .noResponse) ↔ ¬Responds source.toList)) := by
  refine ⟨fun hmissing d hd => ?_, fun line hline keyword hk rest hlead => ?_⟩
  · have hnot := ((reports_noDeclaration_iff source).1 hmissing).2
    exact Bool.eq_false_iff.2 fun hneeds => hnot (declares_of_needsDeclaration hd hneeds)
  · have hopens := (leadingForm?_eq_some_iff.1 hlead).1
    have hmem := lineKeywords_subset hk
    have hform := hopens.hasForm_document hmem hline
    have hdeclares : Declares source.toList := ⟨keyword, hmem, hform⟩
    refine ⟨containsAnyForm_iff.2 hdeclares, fun d hd hkind => ?_, ?_⟩
    · exact ((reports_noDeclaration_iff source).1 ⟨d, hd, hkind⟩).2 hdeclares
    · rintro rfl
      refine ⟨containsForm_iff.2 hform, ?_⟩
      rw [reports_noResponse_iff]
      exact and_iff_right hform

/-- A document without a declaration, and one whose only declaration is indented and names nothing.
-/
theorem declarations_recognised_both :
    let undeclared := "(print tx-sender)"
    let nameless := "; counter\n  (define-public)"
    ((∃ d ∈ (check undeclared).errors, d.kind = .noDeclaration) ∧
      ∀ d ∈ (check undeclared).errors ++ (check undeclared).warnings,
        d.kind.needsDeclaration = false) ∧
    "  (define-public)".toList ∈ splitLines nameless.toList ∧
    leadingForm? (trim "  (define-public)".toList) = some (publicFunction, [')']) ∧
    containsAnyForm declarationKeywords nameless.toList = true ∧
    (∀ d ∈ (check nameless).errors, d.kind ≠ .noDeclaration) ∧
    containsForm publicFunction nameless.toList = true ∧
    ((∃ d ∈ (check nameless).warnings, d.kind = .noResponse) ↔ ¬Responds nameless.toList) := by
  intro undeclared nameless
  have hmissing : ∃ d ∈ (check undeclared).errors, d.kind = .noDeclaration :=
    ⟨Finding.noDeclaration.onLine 1, by decide +kernel, kind_onLine _ _⟩
  have hline : "  (define-public)".toList ∈ splitLines nameless.toList := by decide +kernel
  have hlead : leadingForm? (trim "  (define-public)".toList) = some (publicFunction, [')']) := by
    decide +kernel
  obtain ⟨hform, hdeclared, hpublic⟩ :=
    (declarations_recognised nameless).2 _ hline publicFunction (by decide) _ hlead
  exact ⟨⟨hmissing, (declarations_recognised undeclared).1 hmissing⟩, hline, hlead, hform,
    hdeclared, hpublic rfl⟩

end ClarityCheck.Lint
