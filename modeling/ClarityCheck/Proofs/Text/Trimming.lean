import ClarityCheck.Text.Blank
import Mathlib.Data.List.DropRight

/-!
# Trimmed texts

A text is its trimmed part with blanks around it, and blanks that are put around a text do not
matter for that part.

* `trim_trim`: trimming twice is trimming once
* `exists_blanks`: the blanks around the trimmed part of a text
* `trim_around`: a text with blanks around it
-/

namespace ClarityCheck.Text

variable {s t : List Char}

theorem trim_sublist (s : List Char) : (trim s).Sublist s := by
  have hend : (trim s).Sublist (trimStart s) := by
    have := (List.dropWhile_sublist (l := (trimStart s).reverse) isBlank).reverse
    rwa [List.reverse_reverse] at this
  exact hend.trans (List.dropWhile_sublist isBlank)

theorem dropWhile_of_trim (h : trim s = s) : s.dropWhile isBlank = s := by
  have hlength : (trim s).length ≤ (s.dropWhile isBlank).length := by
    have := (List.dropWhile_sublist (l := (trimStart s).reverse) isBlank).length_le
    simpa [trim, trimEnd, trimStart] using this
  rw [h] at hlength
  exact (List.dropWhile_sublist isBlank).eq_of_length_le hlength

theorem reverse_dropWhile_of_trim (h : trim s = s) : s.reverse.dropWhile isBlank = s.reverse := by
  have hstart : trimStart s = s := dropWhile_of_trim h
  have := congrArg List.reverse h
  rwa [trim, hstart, trimEnd, List.reverse_reverse] at this

theorem dropWhile_ne_cons (c : Char) (s : List Char) : s.dropWhile isBlank ≠ c :: s := by
  intro h
  have hle := (List.dropWhile_sublist (l := s) isBlank).length_le
  rw [h, List.length_cons] at hle
  omega

/-- A trimmed text does not end in blanks. -/
theorem eq_nil_of_trim_append (h : trim (s ++ t) = s ++ t) (ht : ∀ c ∈ t, isBlank c = true) :
    t = [] := by
  cases hr : t.reverse with
  | nil => simpa using hr
  | cons c r =>
    have hc : isBlank c = true := ht c (by rw [← List.mem_reverse, hr]; simp)
    have hlast := reverse_dropWhile_of_trim h
    rw [List.reverse_append, hr, List.cons_append, List.dropWhile_cons_of_pos hc] at hlast
    exact absurd hlast (dropWhile_ne_cons c _)

/-- A text that has been trimmed stays as it is. -/
theorem trim_trim (s : List Char) : trim (trim s) = trim s := by
  have hstart : trimStart (trim s) = trim s := by
    unfold trim trimStart
    cases hs : s.dropWhile isBlank with
    | nil => rfl
    | cons c r =>
      have hc : isBlank c = false := by simpa [hs] using List.head?_dropWhile_not isBlank s
      have hend : ∃ r', trimEnd (c :: r) = c :: r' := by
        rw [trimEnd, List.reverse_cons, List.dropWhile_append]
        split
        · exact ⟨[], by simp [hc]⟩
        · exact ⟨(r.reverse.dropWhile isBlank).reverse, by simp⟩
      obtain ⟨r', hr'⟩ := hend
      rw [hr', List.dropWhile_cons_of_neg (by simp [hc])]
  have hend : trimEnd (trim s) = trim s := by
    unfold trim trimEnd
    rw [List.reverse_reverse, List.dropWhile_idempotent]
  rw [trim, hstart, hend]

/-- A text without blanks is trimmed. -/
theorem trim_of_no_blank (h : ∀ c ∈ s, isBlank c = false) : trim s = s := by
  have hstart (s : List Char) (h : ∀ c ∈ s, isBlank c = false) : s.dropWhile isBlank = s := by
    cases s with
    | nil => rfl
    | cons c s => exact List.dropWhile_cons_of_neg (by simp [h c])
  rw [trim, trimStart, hstart s h, trimEnd, hstart _ (by simpa using h), List.reverse_reverse]

/-! ## Blanks around a text -/

/-- A text is its trimmed part with blanks around it. -/
theorem exists_blanks (s : List Char) :
    ∃ a b, (∀ c ∈ a, isBlank c = true) ∧ (∀ c ∈ b, isBlank c = true) ∧ s = a ++ trim s ++ b := by
  refine ⟨s.takeWhile isBlank, (((trimStart s).reverse).takeWhile isBlank).reverse, ?_, ?_, ?_⟩
  · exact fun c hc => List.mem_takeWhile_imp hc
  · intro c hc
    exact List.mem_takeWhile_imp (List.mem_reverse.1 hc)
  · have hend : trim s ++ ((trimStart s).reverse.takeWhile isBlank).reverse = trimStart s := by
      rw [trim, trimEnd, ← List.reverse_append, List.takeWhile_append_dropWhile,
        List.reverse_reverse]
    rw [List.append_assoc, hend, trimStart, List.takeWhile_append_dropWhile]

theorem trimStart_append {a : List Char} (ha : ∀ c ∈ a, isBlank c = true) (s : List Char) :
    trimStart (a ++ s) = trimStart s :=
  List.dropWhile_append_of_pos ha

theorem trimEnd_append (s : List Char) {b : List Char} (hb : ∀ c ∈ b, isBlank c = true) :
    trimEnd (s ++ b) = trimEnd s := by
  rw [trimEnd, List.reverse_append, List.dropWhile_append_of_pos (by simpa using hb), ← trimEnd]

/-- Blanks at the end of a text stay there when those in front of it go, unless nothing else is
left. -/
theorem trimEnd_trimStart_append (s : List Char) {b : List Char} (hb : ∀ c ∈ b, isBlank c = true) :
    trimEnd (trimStart (s ++ b)) = trimEnd (trimStart s) := by
  rw [trimStart, List.dropWhile_append]
  split
  · next h =>
    have hs : trimStart s = [] := by simpa [trimStart] using h
    have hb' : b.dropWhile isBlank = [] := (dropWhile_eq_nil_iff b).2 hb
    rw [hs, hb']
  · exact trimEnd_append _ hb

/-- Blanks around a text do not belong to its trimmed part. -/
theorem trim_around {a b : List Char} (ha : ∀ c ∈ a, isBlank c = true)
    (hb : ∀ c ∈ b, isBlank c = true) (s : List Char) : trim (a ++ s ++ b) = trim s := by
  rw [trim, List.append_assoc, trimStart_append ha, trimEnd_trimStart_append s hb, ← trim]

/-- A text without its leading blanks has the same trimmed part. -/
theorem trim_trimStart (s : List Char) : trim (trimStart s) = trim s := by
  rw [trim, trim, trimStart, trimStart, List.dropWhile_idempotent]

end ClarityCheck.Text
