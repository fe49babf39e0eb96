import ClarityCheck.Lint.Check
import Mathlib.Data.List.Basic

/-!
# Documents put together from lines

A document is lines with a line feed between each two of them. The check takes it apart again, and
since a line feed ends the head of a form, a form stands in a document exactly when it stands in one
of the lines.

* `splitLines_document`, `document_splitLines`: the lines of a document
* `containsForm_iff`: the forms that the search finds
* `containsForm_document`: a form in a document
-/

namespace ClarityCheck.Lint

open Text

/-- A document of lines. -/
def document (lines : List (List Char)) : List Char := List.intercalate ['\n'] lines

@[simp] theorem document_nil : document [] = [] := rfl

@[simp] theorem document_singleton (l : List Char) : document [l] = l := by simp [document]

@[simp] theorem document_cons_cons (l l' : List Char) (ls : List (List Char)) :
    document (l :: l' :: ls) = l ++ '\n' :: document (l' :: ls) := by
  simp [document, List.intercalate]

/-- The lines of a document that has some. -/
theorem splitLines_document {lines : List (List Char)} (hne : lines ≠ [])
    (h : ∀ l ∈ lines, '\n' ∉ l) : splitLines (document lines) = lines := by
  induction lines with
  | nil => exact absurd rfl hne
  | cons l ls ih =>
    have hl : '\n' ∉ l := h l (by simp)
    cases ls with
    | nil => rw [document_singleton, splitLines, splitOn_of_not_mem hl]
    | cons l' ls =>
      rw [document_cons_cons, splitLines, splitOn_append_cons hl, ← splitLines,
        ih (by simp) fun m hm => h m (by simp [hm])]

theorem splitLines_ne_nil (s : List Char) : splitLines s ≠ [] := splitOn_ne_nil '\n' s

theorem document_consToFirst (c : Char) {lines : List (List Char)} (hne : lines ≠ []) :
    document (consToFirst c lines) = c :: document lines := by
  cases lines with
  | nil => exact absurd rfl hne
  | cons l ls => cases ls <;> simp [consToFirst]

/-- A text is the document of its lines. -/
@[simp] theorem document_splitLines (s : List Char) : document (splitLines s) = s := by
  induction s with
  | nil => rfl
  | cons c s ih =>
    have hne := splitLines_ne_nil s
    rw [splitLines, splitOn_cons, ← splitLines]
    split
    · next hc =>
      obtain ⟨l, ls, hl⟩ := List.exists_cons_of_ne_nil hne
      rw [hl, document_cons_cons, ← hl, ih, hc, List.nil_append]
    · rw [document_consToFirst c hne, ih]

/-- The lines of a text hold no line feed. -/
theorem oneLine_splitLines (s : List Char) : ∀ l ∈ splitLines s, '\n' ∉ l := by
  induction s with
  | nil => simp [splitLines]
  | cons c s ih =>
    obtain ⟨l, ls, hl⟩ := List.exists_cons_of_ne_nil (splitLines_ne_nil s)
    rw [hl] at ih
    rw [splitLines, splitOn_cons, ← splitLines, hl]
    split
    · rintro m (_ | ⟨_, hm⟩)
      · simp
      · exact ih m hm
    · next hc =>
      rintro m (_ | ⟨_, hm⟩)
      · have := ih l (by simp)
        simp [Ne.symm hc, this]
      · exact ih m (List.mem_cons_of_mem _ hm)

/-! ## Forms -/

/-- The text is over or goes on with a character that ends a head. -/
def EndsHere (rest : List Char) : Prop := ∀ c ∈ rest.head?, isBoundary c = true

/-- Some opening parenthesis of the text has this head right behind it, and nothing lengthens the
head. -/
def HasForm (head text : List Char) : Prop :=
  ∃ before after, text = before ++ '(' :: (head ++ after) ∧ EndsHere after

theorem endsHead_iff (rest : List Char) : endsHead rest = true ↔ EndsHere rest := by
  rw [endsHead, EndsHere, Option.all_eq_true]
  rfl

theorem opensWith_iff {head text : List Char} :
    opensWith head text = true ↔ ∃ after, text = head ++ after ∧ EndsHere after := by
  unfold opensWith
  cases h : dropStart? head text with
  | none =>
    refine iff_of_false (by simp) ?_
    rintro ⟨after, ha, -⟩
    rw [dropStart?_eq_some_iff.2 ha] at h
    cases h
  | some rest =>
    obtain rfl := dropStart?_eq_some_iff.1 h
    simp [endsHead_iff]

/-- The search for a form finds those that stand in the text. -/
theorem containsForm_iff {head text : List Char} :
    containsForm head text = true ↔ HasForm head text := by
  induction text with
  | nil =>
    refine iff_of_false (by simp [containsForm]) ?_
    rintro ⟨before, after, h, -⟩
    simp at h
  | cons c s ih =>
    rw [containsForm, Bool.or_eq_true, Bool.and_eq_true, beq_iff_eq, opensWith_iff, ih]
    constructor
    · rintro (⟨rfl, after, rfl, hafter⟩ | ⟨before, after, rfl, hafter⟩)
      · exact ⟨[], after, rfl, hafter⟩
      · exact ⟨c :: before, after, rfl, hafter⟩
    · rintro ⟨before, after, h, hafter⟩
      cases before with
      | nil =>
        obtain ⟨rfl, rfl⟩ := List.cons.inj h
        exact .inl ⟨rfl, after, rfl, hafter⟩
      | cons d before =>
        obtain ⟨rfl, rfl⟩ := List.cons.inj h
        exact .inr ⟨before, after, rfl, hafter⟩

theorem containsAnyForm_iff {heads : List (List Char)} {text : List Char} :
    containsAnyForm heads text = true ↔ ∃ head ∈ heads, HasForm head text := by
  rw [containsAnyForm, List.any_eq_true]
  exact exists_congr fun head => and_congr_right fun _ => containsForm_iff

/-- What a text opens with does not depend on what follows behind a blank. -/
theorem opensWith_append_blank {head : List Char} {b : Char} (hb : isBlank b = true) (hn : b ∉ head)
    (s t : List Char) : opensWith head (s ++ b :: t) = opensWith head s := by
  induction head generalizing s with
  | nil => cases s <;> simp [opensWith, dropStart?, endsHead, isBoundary, hb]
  | cons c head ih =>
    simp only [List.mem_cons, not_or] at hn
    cases s with
    | nil => simp [opensWith, dropStart?, Ne.symm hn.1]
    | cons d s =>
      have := ih hn.2 s
      by_cases hc : c = d
      · simpa [opensWith, dropStart?, hc] using this
      · simp [opensWith, dropStart?, hc]

/-- A form does not go on behind a blank. -/
theorem containsForm_append_blank {head : List Char} {b : Char} (hb : isBlank b = true)
    (hn : b ∉ head) (s t : List Char) :
    containsForm head (s ++ b :: t) = (containsForm head s || containsForm head t) := by
  have hopen : (b == '(') = false := by
    rw [beq_eq_false_iff_ne]
    rintro rfl
    revert hb
    decide
  induction s with
  | nil => simp [containsForm, hopen]
  | cons c s ih =>
    simp only [List.cons_append, containsForm, ih, opensWith_append_blank hb hn, Bool.or_assoc]

/-- A form stands in a document when it stands in one of the lines. -/
theorem containsForm_document {head : List Char} (hn : '\n' ∉ head) (lines : List (List Char)) :
    containsForm head (document lines) = lines.any (containsForm head) := by
  induction lines with
  | nil => rfl
  | cons l ls ih =>
    cases ls with
    | nil => simp
    | cons l' ls =>
      rw [document_cons_cons, containsForm_append_blank (by decide) hn, ih]
      rfl

/-- One of several forms stands in a document when it stands in one of the lines. -/
theorem containsAnyForm_document {heads : List (List Char)} (hn : ∀ head ∈ heads, '\n' ∉ head)
    (lines : List (List Char)) :
    containsAnyForm heads (document lines) = lines.any (containsAnyForm heads) := by
  rw [Bool.eq_iff_iff]
  simp only [containsAnyForm, List.any_eq_true]
  constructor
  · rintro ⟨head, hh, hd⟩
    rw [containsForm_document (hn head hh), List.any_eq_true] at hd
    obtain ⟨l, hl, hf⟩ := hd
    exact ⟨l, hl, head, hh, hf⟩
  · rintro ⟨l, hl, head, hh, hf⟩
    refine ⟨head, hh, ?_⟩
    rw [containsForm_document (hn head hh), List.any_eq_true]
    exact ⟨l, hl, hf⟩

end ClarityCheck.Lint
