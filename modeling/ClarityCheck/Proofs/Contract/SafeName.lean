import ClarityCheck.Contract
import ClarityCheck.Text.Lowercase
import Mathlib.Data.List.Chain
import Mathlib.Data.List.DropRight

/-!
# The names of contracts

The name that a contract is staged under holds the runs of letters and digits of the name that was
asked for, in lower case and with a hyphen between each two of them, as far as 64 characters go.
Names of this form are their own.

* `hyphenate_flatMap_lowered`: of the lower-case forms only letters from a to z matter
* `hyphenate_runs`: replaced characters and the runs between them
* `dropHyphens_eq`: the cut leaves at most one hyphen at the end
* `isTidy_safeName`, `safeName_of_isTidy`: the names that are their own
* `safeName_runs`: the name made of its runs
-/

namespace ClarityCheck.Contract

open Text

/-! ## Characters -/

theorem ne_hyphen_of_isNameChar {c : Char} (h : isNameChar c = true) : c ≠ '-' := by
  rintro rfl
  revert h
  decide

theorem isNameChar_eq_false {c : Char} (h : 0x80 ≤ c.toNat) : isNameChar c = false := by
  have hz : ¬c ≤ 'z' := fun hc => absurd (Nat.le_trans h hc) (by decide)
  have hnine : ¬c ≤ '9' := fun hc => absurd (Nat.le_trans h hc) (by decide)
  simp [isNameChar, hz, hnine]

/-- The lower-case form of a character is the one that names are made from, or no name holds either
of them. -/
theorem lowercase_cases (c : Char) : lowercase c = lowered c ∨
    ∃ d, lowercase c = [d] ∧ lowered c = [c] ∧ isNameChar c = false ∧ isNameChar d = false := by
  by_cases hascii : c.toNat < 0x80
  · have hkelvin : c ≠ '\u212A' := by
      rintro rfl
      revert hascii
      decide
    have hdotted : c ≠ '\u0130' := by
      rintro rfl
      revert hascii
      decide
    left
    rw [lowercase_of_ascii hascii, lowered, if_neg hkelvin, if_neg hdotted]
  · have hcapital : ¬('A' ≤ c ∧ c ≤ 'Z') := fun h => hascii (Nat.lt_of_le_of_lt h.2 (by decide))
    by_cases hkelvin : c = '\u212A'
    · left
      rw [hkelvin]
      decide +kernel
    by_cases hdotted : c = '\u0130'
    · left
      rw [hdotted]
      decide +kernel
    have hbeyond : 0x80 ≤ c.toNat := Nat.le_of_not_lt hascii
    obtain ⟨d, hd, hcode⟩ := exists_of_lowercase hbeyond hkelvin hdotted
    refine .inr ⟨d, hd, ?_, isNameChar_eq_false hbeyond, isNameChar_eq_false hcode⟩
    rw [lowered, if_neg hcapital, if_neg hkelvin, if_neg hdotted]

section

variable {c : Char} {hyphen : Bool}

theorem hyphenate_name (h : isNameChar c = true) (s : List Char) :
    hyphenate hyphen (c :: s) = c :: hyphenate false s := by
  rw [hyphenate, if_pos h]

theorem hyphenate_other (h : isNameChar c = false) (s : List Char) :
    hyphenate hyphen (c :: s) = if hyphen then hyphenate true s else '-' :: hyphenate true s := by
  rw [hyphenate, if_neg (by simp [h])]

end

theorem hyphenate_append_congr {s t : List Char}
    (h : ∀ hyphen, hyphenate hyphen s = hyphenate hyphen t) (front : List Char) (hyphen : Bool) :
    hyphenate hyphen (front ++ s) = hyphenate hyphen (front ++ t) := by
  induction front generalizing hyphen with
  | nil => exact h hyphen
  | cons c front ih => rw [List.cons_append, List.cons_append, hyphenate, hyphenate, ih, ih]

/-- Characters without a letter from a to z in their lower-case form can stay as they are. -/
theorem hyphenate_flatMap_lowered (hyphen : Bool) (raw : List Char) :
    hyphenate hyphen (raw.flatMap lowered) = hyphenate hyphen (raw.flatMap lowercase) := by
  induction raw generalizing hyphen with
  | nil => rfl
  | cons c raw ih =>
    rw [List.flatMap_cons, List.flatMap_cons]
    rcases lowercase_cases c with h | ⟨d, hd, hc, hcname, hdname⟩
    · rw [h]
      exact hyphenate_append_congr ih _ hyphen
    · rw [hd, hc, List.singleton_append, List.singleton_append, hyphenate_other hcname,
        hyphenate_other hdname, ih]

/-! ## Runs -/

/-- The longest sequences of letters and digits in a text: what stands between its other characters.
-/
def runs (s : List Char) : List (List Char) := (s.splitOnP fun c => !isNameChar c).filter (· ≠ [])

/-- The first part of a text is empty or its first run. -/
theorem runs_of_splitOnP {s part : List Char} {parts : List (List Char)}
    (h : s.splitOnP (fun c => !isNameChar c) = part :: parts) :
    runs s = if part = [] then parts.filter (· ≠ []) else part :: parts.filter (· ≠ []) := by
  rw [runs, h, List.filter_cons]
  by_cases hpart : part = [] <;> simp [hpart]

theorem runs_other {c : Char} (h : isNameChar c = false) (s : List Char) :
    runs (c :: s) = runs s := by
  rw [runs, List.splitOnP_cons_eq_if_modifyHead, if_pos (by simp [h])]
  rfl

/-- The runs with a hyphen between each two of them. -/
def joined (rs : List (List Char)) : List Char := ['-'].intercalate rs

/-- The hyphen that a text leaves behind its runs when other characters follow them. -/
def IsTail (rs : List (List Char)) (tail : List Char) : Prop := tail = [] ∨ tail = ['-'] ∧ rs ≠ []

/-- Replacing what names may not hold joins the runs. In the middle of a run, the first part of the
text goes on with it. -/
theorem hyphenate_runs (s : List Char) :
    (∃ tail, IsTail (runs s) tail ∧ hyphenate true s = joined (runs s) ++ tail) ∧
      ∀ part parts, s.splitOnP (fun c => !isNameChar c) = part :: parts →
        ∃ tail, (tail = [] ∨ tail = ['-']) ∧
          hyphenate false s = joined (part :: parts.filter (· ≠ [])) ++ tail := by
  induction s with
  | nil =>
    refine ⟨⟨[], .inl rfl, rfl⟩, fun part parts h => ⟨[], .inl rfl, ?_⟩⟩
    obtain ⟨rfl, rfl⟩ : part = [] ∧ parts = [] := by simpa [eq_comm] using h
    rfl
  | cons c s ih =>
    obtain ⟨⟨tail, htail, hbegin⟩, hmiddle⟩ := ih
    obtain ⟨part, parts, hs⟩ :=
      List.exists_cons_of_ne_nil (List.splitOnP_ne_nil (fun c => !isNameChar c) s)
    by_cases hc : isNameChar c = true
    · have hsplit : (c :: s).splitOnP (fun c => !isNameChar c) = (c :: part) :: parts := by
        rw [List.splitOnP_cons_eq_if_modifyHead, if_neg (by simp [hc]), hs]
        rfl
      obtain ⟨tail, htail, hgoes⟩ := hmiddle part parts hs
      -- A character of a name belongs to the first part, in the middle of a run or not.
      have hjoined : joined ((c :: part) :: parts.filter (· ≠ [])) =
          c :: joined (part :: parts.filter (· ≠ [])) := by
        cases parts.filter (· ≠ []) with
        | nil => rfl
        | cons r rs => simp [joined]
      have hruns : runs (c :: s) = (c :: part) :: parts.filter (· ≠ []) := by
        rw [runs_of_splitOnP hsplit, if_neg (by simp)]
      constructor
      · refine ⟨tail, htail.imp_right fun h => ⟨h, by simp [hruns]⟩, ?_⟩
        rw [hyphenate_name hc, hgoes, hruns, hjoined, List.cons_append]
      · intro part' parts' h
        obtain ⟨rfl, rfl⟩ := List.cons.inj (hsplit.symm.trans h)
        refine ⟨tail, htail, ?_⟩
        rw [hyphenate_name hc, hgoes, hjoined, List.cons_append]
    · have hother : isNameChar c = false := by simpa using hc
      have hsplit : (c :: s).splitOnP (fun c => !isNameChar c) =
          [] :: s.splitOnP fun c => !isNameChar c := by
        rw [List.splitOnP_cons_eq_if_modifyHead, if_pos (by simp [hother])]
      constructor
      · refine ⟨tail, by rwa [runs_other hother], ?_⟩
        rw [hyphenate_other hother, if_pos rfl, hbegin, runs_other hother]
      · intro part' parts' h
        obtain ⟨rfl, rfl⟩ := List.cons.inj (hsplit.symm.trans h)
        rw [hyphenate_other hother, if_neg (by simp), hbegin, ← runs]
        -- The other character becomes the hyphen in front of the next run, or that at the end.
        cases hrs : runs s with
        | nil =>
          obtain rfl : tail = [] := by simpa [IsTail, hrs] using htail
          exact ⟨['-'], .inr rfl, rfl⟩
        | cons r rs => exact ⟨tail, htail.imp_right And.left, by simp [joined]⟩

/-! ## Hyphens -/

/-- No two hyphens stand side by side. -/
def NoDoubleHyphen (s : List Char) : Prop := s.IsChain fun c d => ¬(c = '-' ∧ d = '-')

/-- A hyphen that replaces other characters follows a run. -/
theorem noDoubleHyphen_hyphenate (hyphen : Bool) (s : List Char) :
    NoDoubleHyphen (hyphenate hyphen s) ∧
    (hyphen = true → (hyphenate hyphen s).head? ≠ some '-') := by
  induction s generalizing hyphen with
  | nil => exact ⟨List.IsChain.nil, fun _ => nofun⟩
  | cons c s ih =>
    by_cases hc : isNameChar c = true
    · have hne := ne_hyphen_of_isNameChar hc
      rw [hyphenate_name hc]
      exact ⟨List.isChain_cons.2 ⟨fun d _ h => hne h.1, (ih false).1⟩, fun _ => by simpa using hne⟩
    · rw [hyphenate_other (by simpa using hc)]
      cases hyphen with
      | true => exact ih true
      | false =>
        refine ⟨List.isChain_cons.2 ⟨fun d hd h => ?_, (ih true).1⟩, nofun⟩
        exact (ih true).2 rfl (h.2 ▸ hd)

theorem dropHyphens_concat (s : List Char) : dropHyphens (s ++ ['-']) = dropHyphens s :=
  List.rdropWhile_concat_pos _ s '-' (by simp)

theorem dropHyphens_eq_self {s : List Char} (h : s.getLast? ≠ some '-') : dropHyphens s = s := by
  refine List.rdropWhile_eq_self_iff.2 fun hne hlast => h ?_
  rw [List.getLast?_eq_some_getLast hne, of_decide_eq_true hlast]

theorem getLast?_dropHyphens (s : List Char) : (dropHyphens s).getLast? ≠ some '-' := by
  intro h
  have hne : dropHyphens s ≠ [] := by
    intro hnil
    rw [hnil] at h
    cases h
  have hlast := List.rdropWhile_last_not (fun c => decide (c = '-')) s hne
  rw [List.getLast?_eq_some_getLast hne] at h
  exact hlast (decide_eq_true (Option.some.inj h))

/-- The text without a hyphen at its end. -/
def dropHyphen (s : List Char) : List Char := if s.getLast? = some '-' then s.dropLast else s

/-- Where no two hyphens stand side by side, there is only one to drop. -/
theorem dropHyphens_eq {s : List Char} (h : NoDoubleHyphen s) : dropHyphens s = dropHyphen s := by
  unfold dropHyphen
  split
  · next hlast =>
    have hs : s = s.dropLast ++ ['-'] := (List.dropLast_append_getLast? '-' hlast).symm
    have hbefore : s.dropLast.getLast? ≠ some '-' := by
      intro hdouble
      rw [hs] at h
      exact (List.isChain_append.1 h).2.2 '-' hdouble '-' rfl ⟨rfl, rfl⟩
    calc dropHyphens s = dropHyphens (s.dropLast ++ ['-']) := congrArg dropHyphens hs
      _ = dropHyphens s.dropLast := dropHyphens_concat _
      _ = s.dropLast := dropHyphens_eq_self hbefore
  · next hlast => exact dropHyphens_eq_self hlast

/-! ## Tidy names -/

/-- A name of up to 64 letters, digits and hyphens, each hyphen between two others. -/
structure IsTidy (name : List Char) : Prop extends IsSafe name where
  head : name.head? ≠ some '-'
  last : name.getLast? ≠ some '-'
  single : NoDoubleHyphen name

theorem isTidy_fallbackName : IsTidy fallbackName where
  toIsSafe := isSafe_safeName []
  head := by decide
  last := by decide
  single := by
    unfold NoDoubleHyphen
    decide

theorem head?_of_isPrefix {s t : List Char} (h : s <+: t) (hs : s ≠ []) : s.head? = t.head? := by
  obtain ⟨rest, rfl⟩ := h
  exact (List.head?_append_of_ne_nil s hs).symm

theorem isTidy_safeName (raw : List Char) : IsTidy (safeName raw) := by
  have hsafe := isSafe_safeName raw
  unfold safeName at hsafe ⊢
  split at hsafe
  · exact isTidy_fallbackName
  · next hne =>
    obtain ⟨hsingle, hhead⟩ := noDoubleHyphen_hyphenate true (raw.flatMap lowered)
    have hprefix : dropHyphens ((hyphenate true (raw.flatMap lowered)).take nameLimit) <+:
        hyphenate true (raw.flatMap lowered) := (prefix_dropHyphens _).trans (List.take_prefix _ _)
    exact {
      toIsSafe := hsafe
      head := by
        rw [head?_of_isPrefix hprefix hne]
        exact hhead rfl
      last := getLast?_dropHyphens _
      single := List.IsChain.prefix hsingle hprefix }

theorem lowered_eq_self {c : Char} (h : isNameChar c = true ∨ c = '-') : lowered c = [c] := by
  have hcode : c.toNat < 0x41 ∨ 0x5A < c.toNat ∧ c.toNat < 0x80 := by
    rcases h with h | rfl
    · simp only [isNameChar, Bool.or_eq_true, Bool.and_eq_true, decide_eq_true_eq] at h
      rcases h with ⟨h₁, h₂⟩ | ⟨h₁, h₂⟩
      · exact .inr ⟨Nat.lt_of_lt_of_le (by decide) h₁, Nat.lt_of_le_of_lt h₂ (by decide)⟩
      · exact .inl (Nat.lt_of_le_of_lt h₂ (by decide))
    · exact .inl (by decide)
  have hcapital : ¬('A' ≤ c ∧ c ≤ 'Z') := by
    rintro ⟨h₁, h₂⟩
    have h₁' : 0x41 ≤ c.toNat := h₁
    have h₂' : c.toNat ≤ 0x5A := h₂
    omega
  have hkelvin : c ≠ '\u212A' := by
    rintro rfl
    revert hcode
    decide
  have hdotted : c ≠ '\u0130' := by
    rintro rfl
    revert hcode
    decide
  rw [lowered, if_neg hcapital, if_neg hkelvin, if_neg hdotted]

theorem flatMap_lowered_eq_self {s : List Char} (h : ∀ c ∈ s, isNameChar c = true ∨ c = '-') :
    s.flatMap lowered = s := by
  induction s with
  | nil => rfl
  | cons c s ih =>
    obtain ⟨hc, hs⟩ := List.forall_mem_cons.1 h
    rw [List.flatMap_cons, lowered_eq_self hc, ih hs, List.singleton_append]

/-- Nothing is replaced in a text of letters, digits and single hyphens. -/
theorem hyphenate_eq_self {hyphen : Bool} {s : List Char}
    (h : ∀ c ∈ s, isNameChar c = true ∨ c = '-') (hsingle : NoDoubleHyphen s)
    (hhead : hyphen = true → s.head? ≠ some '-') : hyphenate hyphen s = s := by
  induction s generalizing hyphen with
  | nil => rfl
  | cons c s ih =>
    obtain ⟨hc, hs⟩ := List.forall_mem_cons.1 h
    obtain ⟨hnext, htail⟩ := List.isChain_cons.1 hsingle
    rcases hc with hc | rfl
    · have hs' : hyphenate false s = s := ih hs htail (fun h => absurd h (by decide))
      rw [hyphenate_name hc, hs']
    · have hfalse : hyphen = false := by simpa using hhead
      have hs' : hyphenate true s = s := ih hs htail fun _ hd => hnext '-' hd ⟨rfl, rfl⟩
      rw [hyphenate_other (by decide), hfalse, if_neg (by decide), hs']

/-- A tidy name is its own. -/
theorem safeName_of_isTidy {name : List Char} (h : IsTidy name) : safeName name = name := by
  obtain ⟨c, rest, hname⟩ := List.exists_cons_of_ne_nil h.ne_nil
  rw [safeName, flatMap_lowered_eq_self h.chars, hyphenate_eq_self h.chars h.single fun _ => h.head,
    List.take_of_length_le h.length_le, dropHyphens_eq_self h.last, hname]

/-! ## Names made of runs -/

/-- The name made of the runs of a text. -/
def nameOfRuns (rs : List (List Char)) : List Char :=
  if rs = [] then fallbackName else dropHyphen ((joined rs).take nameLimit)

theorem dropHyphens_take (rs : List (List Char)) {tail : List Char} (h : IsTail rs tail) :
    dropHyphens ((joined rs ++ tail).take nameLimit) =
      dropHyphens ((joined rs).take nameLimit) := by
  rw [List.take_append]
  rcases h with rfl | ⟨rfl, -⟩
  · rw [List.take_nil, List.append_nil]
  · cases nameLimit - (joined rs).length with
    | zero => rw [List.take_zero, List.append_nil]
    | succ n => rw [List.take_succ_cons, List.take_nil, dropHyphens_concat]

/-- The first character of a name is that of its first run. -/
theorem ne_nil_of_runs {s : List Char} (h : runs s ≠ []) :
    dropHyphens ((joined (runs s)).take nameLimit) ≠ [] := by
  obtain ⟨tail, -, hs⟩ := (hyphenate_runs s).1
  have hhead := (noDoubleHyphen_hyphenate true s).2 rfl
  have hne : joined (runs s) ≠ [] := by
    obtain ⟨r, rs, hrs⟩ := List.exists_cons_of_ne_nil h
    have hr : r ≠ [] := by
      have : r ∈ runs s := by rw [hrs]; exact List.mem_cons_self
      simpa using (List.mem_filter.1 this).2
    rw [hrs]
    cases rs with
    | nil => simpa [joined] using hr
    | cons r' rs => simp [joined, hr]
  obtain ⟨c, rest, hc⟩ := List.exists_cons_of_ne_nil hne
  intro hnil
  have hall := List.rdropWhile_eq_nil_iff.1 hnil c (by rw [hc]; exact List.mem_cons_self)
  rw [hs, hc, of_decide_eq_true hall] at hhead
  exact hhead rfl

/-- The name that a contract is staged under is made of the runs of letters and digits in the
lower-case form of the name that was asked for. It is tidy, the tidy names are those that stay as
they are, and so it stays as it is. -/
theorem safeName_runs (raw : List Char) :
    safeName raw = nameOfRuns (runs (raw.flatMap lowercase)) ∧
      IsTidy (safeName raw) ∧
      (∀ name, safeName name = name ↔ IsTidy name) ∧
      safeName (safeName raw) = safeName raw := by
  refine ⟨?_, isTidy_safeName raw,
    fun name => ⟨fun h => h ▸ isTidy_safeName name, safeName_of_isTidy⟩,
    safeName_of_isTidy (isTidy_safeName raw)⟩
  obtain ⟨tail, htail, hs⟩ := (hyphenate_runs (raw.flatMap lowercase)).1
  have hsingle := (noDoubleHyphen_hyphenate true (raw.flatMap lowercase)).1
  rw [safeName, hyphenate_flatMap_lowered, hs, dropHyphens_take _ htail, nameOfRuns]
  split
  · next hnil =>
    rw [if_pos]
    by_contra hne
    exact ne_nil_of_runs hne hnil
  · next hne =>
    rw [hs] at hsingle
    have hwhole : NoDoubleHyphen (joined (runs (raw.flatMap lowercase))) :=
      List.IsChain.prefix hsingle (List.prefix_append _ _)
    have hjoined : NoDoubleHyphen ((joined (runs (raw.flatMap lowercase))).take nameLimit) :=
      List.IsChain.take hwhole nameLimit
    rw [if_neg, dropHyphens_eq hjoined]
    intro hnil
    rw [hnil] at hne
    exact hne rfl

end ClarityCheck.Contract
