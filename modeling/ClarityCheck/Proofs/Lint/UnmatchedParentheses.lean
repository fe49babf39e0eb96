import ClarityCheck.Proofs.Lint.DiagnosticKind
import Mathlib.Logic.Relation

/-!
# Parentheses that meet no partner

The parentheses of a document make up a word. Taking out adjacent pairs `()` again and again leaves
closers followed by openers, and always the same ones, whichever pair is taken out first. The check
counts open forms instead and starts again from zero at a stray closer; it comes to the same.

* `isReduct_iff`: what is left of a word
* `scanBalance_splitLines`: the count of open forms in terms of what is left
* `unmatched_reported`: the errors on parentheses
-/

namespace ClarityCheck.Lint

open Text Relation

/-! ## Words of parentheses -/

/-- A character with the number of characters before it. -/
abbrev Mark := Char × Nat

/-- An opening or a closing parenthesis. -/
def isParenthesis (c : Char) : Bool := c == '(' || c == ')'

/-- The parentheses of a text in order, where `start` characters stand before it. -/
def parenthesesFrom (start : Nat) (source : List Char) : List Mark :=
  (source.zipIdx start).filter (isParenthesis ·.1)

/-- The parentheses of a text in order. -/
def parentheses (source : List Char) : List Mark := parenthesesFrom 0 source

/-- The number of the line on which a character stands that has `position` characters before it. -/
def lineAt (source : List Char) (position : Nat) : Nat := (source.take position).count '\n' + 1

/-- An opener and a closer right behind it are taken out. -/
inductive Cancels : List Mark → List Mark → Prop where
  | pair (before after : List Mark) (i j : Nat) :
    Cancels (before ++ ('(', i) :: (')', j) :: after) (before ++ after)

/-- What is left of a word when no pair is left that could be taken out. -/
def IsReduct (word rest : List Mark) : Prop :=
  ReflTransGen Cancels word rest ∧ ∀ next, ¬Cancels rest next

/-! ## What is left of a word -/

/-- The closers and the openers of a word that meet no partner. An opener takes the first closer
behind it that has no partner yet. -/
def unmatched : List Mark → List Mark × List Mark
  | [] => ([], [])
  | p :: word =>
    if p.1 = '(' then
      match unmatched word with
      | ([], openers) => ([], p :: openers)
      | (_ :: closers, openers) => (closers, openers)
    else (p :: (unmatched word).1, (unmatched word).2)

section

variable {word rest next : List Mark} {p : Mark}

theorem unmatched_opener_nil (hp : p.1 = '(') (h : (unmatched word).1 = []) :
    unmatched (p :: word) = ([], p :: (unmatched word).2) := by
  rw [unmatched, if_pos hp]
  generalize unmatched word = later at h ⊢
  obtain ⟨closers, openers⟩ := later
  subst h
  rfl

theorem unmatched_opener_cons {c : Mark} {closers : List Mark} (hp : p.1 = '(')
    (h : (unmatched word).1 = c :: closers) :
    unmatched (p :: word) = (closers, (unmatched word).2) := by
  rw [unmatched, if_pos hp]
  generalize unmatched word = later at h ⊢
  obtain ⟨closers, openers⟩ := later
  subst h
  rfl

theorem unmatched_closer (hp : p.1 ≠ '(') :
    unmatched (p :: word) = (p :: (unmatched word).1, (unmatched word).2) := by
  rw [unmatched, if_neg hp]

/-- The two parts are closers and openers. -/
theorem chars_unmatched (word : List Mark) :
    (∀ p ∈ (unmatched word).1, p.1 ≠ '(') ∧ ∀ p ∈ (unmatched word).2, p.1 = '(' := by
  induction word with
  | nil => simp [unmatched]
  | cons p word ih =>
    obtain ⟨hclosers, hopeners⟩ := ih
    by_cases hp : p.1 = '('
    · cases h : (unmatched word).1 with
      | nil =>
        rw [unmatched_opener_nil hp h]
        exact ⟨by simp, List.forall_mem_cons.2 ⟨hp, hopeners⟩⟩
      | cons c closers =>
        rw [unmatched_opener_cons hp h]
        rw [h] at hclosers
        exact ⟨(List.forall_mem_cons.1 hclosers).2, hopeners⟩
    · rw [unmatched_closer hp]
      exact ⟨List.forall_mem_cons.2 ⟨hp, hclosers⟩, hopeners⟩

/-- They are left in the order of the word. -/
theorem unmatched_sublist (word : List Mark) :
    ((unmatched word).1 ++ (unmatched word).2).Sublist word := by
  induction word with
  | nil => exact List.Sublist.refl _
  | cons p word ih =>
    by_cases hp : p.1 = '('
    · cases h : (unmatched word).1 with
      | nil =>
        rw [h] at ih
        rw [unmatched_opener_nil hp h]
        exact ih.cons_cons p
      | cons c closers =>
        rw [h] at ih
        rw [unmatched_opener_cons hp h]
        exact ((List.sublist_cons_self c _).trans ih).cons p
    · rw [unmatched_closer hp]
      exact ih.cons_cons p

theorem Cancels.cons (h : Cancels word rest) (p : Mark) : Cancels (p :: word) (p :: rest) := by
  obtain ⟨before, after, i, j⟩ := h
  exact .pair (p :: before) after i j

theorem Cancels.length_lt (h : Cancels word rest) : rest.length < word.length := by
  obtain ⟨before, after, i, j⟩ := h
  simp only [List.length_append, List.length_cons]
  omega

theorem Cancels.sublist (h : Cancels word rest) : rest.Sublist word := by
  obtain ⟨before, after, i, j⟩ := h
  exact ((List.sublist_cons_self _ _).trans (List.sublist_cons_self _ _)).append_left before

/-- Taking out a pair takes nothing away from the parentheses without a partner. -/
theorem Cancels.unmatched_eq (h : Cancels word rest) : unmatched word = unmatched rest := by
  obtain ⟨before, after, i, j⟩ := h
  induction before with
  | nil =>
    have hcloser :
        unmatched ((')', j) :: after) = ((')', j) :: (unmatched after).1, (unmatched after).2) :=
      unmatched_closer (by simp)
    rw [List.nil_append, List.nil_append, unmatched_opener_cons rfl (by rw [hcloser]), hcloser]
  | cons p before ih => rw [List.cons_append, List.cons_append, unmatched, unmatched, ih]

theorem sublist_of_reduces (h : ReflTransGen Cancels word rest) : rest.Sublist word := by
  induction h with
  | refl => exact List.Sublist.refl _
  | tail _ hstep ih => exact hstep.sublist.trans ih

theorem unmatched_of_reduces (h : ReflTransGen Cancels word rest) :
    unmatched word = unmatched rest := by
  induction h with
  | refl => rfl
  | tail _ hstep ih => exact ih.trans hstep.unmatched_eq

/-- A word reduces to its closers and openers without a partner. -/
theorem reduces_unmatched (hw : ∀ p ∈ word, isParenthesis p.1 = true) :
    ReflTransGen Cancels word ((unmatched word).1 ++ (unmatched word).2) := by
  induction word with
  | nil => exact .refl
  | cons p word ih =>
    have hrest := (ih (List.forall_mem_cons.1 hw).2).lift (p :: ·) fun _ _ h => h.cons p
    by_cases hp : p.1 = '('
    · cases h : (unmatched word).1 with
      | nil =>
        rw [h] at hrest
        rw [unmatched_opener_nil hp h]
        exact hrest
      | cons c closers =>
        -- The opener stands right in front of the first closer that is left.
        have hc : c.1 = ')' := by
          have hmem : c ∈ word := (unmatched_sublist word).subset (by simp [h])
          have hne := (chars_unmatched word).1 c (by simp [h])
          simpa [isParenthesis, hne] using hw c (List.mem_cons_of_mem p hmem)
        rw [h] at hrest
        rw [unmatched_opener_cons hp h]
        obtain ⟨_, i⟩ := p
        obtain ⟨_, j⟩ := c
        subst hp hc
        exact hrest.tail (.pair [] _ i j)
    · rw [unmatched_closer hp]
      exact hrest

/-- What is left of a word in the end are its closers and openers without a partner. -/
theorem isReduct_iff (hw : ∀ p ∈ word, isParenthesis p.1 = true) :
    IsReduct word rest ↔ rest = (unmatched word).1 ++ (unmatched word).2 := by
  constructor
  · rintro ⟨hreduces, hlast⟩
    have hrest := reduces_unmatched fun p hp => hw p ((sublist_of_reduces hreduces).subset hp)
    rw [← unmatched_of_reduces hreduces] at hrest
    rcases hrest.cases_head with h | ⟨next, hnext, -⟩
    · exact h
    · exact absurd hnext (hlast next)
  · rintro rfl
    refine ⟨reduces_unmatched hw, fun next hnext => ?_⟩
    -- What follows would have to lead back here, and it is shorter.
    have hreduces := (reduces_unmatched hw).tail hnext
    have hback := reduces_unmatched fun p hp => hw p ((sublist_of_reduces hreduces).subset hp)
    rw [← unmatched_of_reduces hreduces] at hback
    have hle := (sublist_of_reduces hback).length_le
    have hlt := hnext.length_lt
    omega

end

/-! ## Counting open forms -/

theorem foldl_step_stray (s : List Char) (stray depth : Nat) :
    s.foldl Balance.step ⟨stray, depth⟩ =
      ⟨stray + (Balance.ofText depth s).stray, (Balance.ofText depth s).depth⟩ := by
  induction s generalizing stray depth with
  | nil => rfl
  | cons c s ih =>
    rw [Balance.ofText, List.foldl_cons, List.foldl_cons]
    by_cases ho : c = '('
    · subst ho
      exact ih stray (depth + 1)
    by_cases hc : c = ')'
    · subst hc
      cases depth with
      | zero =>
        show s.foldl Balance.step ⟨stray + 1, 0⟩ =
          ⟨stray + (s.foldl Balance.step ⟨1, 0⟩).stray, (s.foldl Balance.step ⟨1, 0⟩).depth⟩
        rw [ih (stray + 1), ih 1, Nat.add_assoc]
      | succ d => exact ih stray d
    · have hstep (b : Balance) : b.step c = b := by rw [Balance.step, if_neg ho, if_neg hc]
      rw [hstep, hstep]
      exact ih stray depth

/-- A closer that finds no open form. -/
theorem ofText_stray (s : List Char) : Balance.ofText 0 (')' :: s) =
    ⟨1 + (Balance.ofText 0 s).stray, (Balance.ofText 0 s).depth⟩ :=
  foldl_step_stray s 1 0

theorem scanBalance_open (line depth : Nat) {lines : List (List Char)} (hne : lines ≠ []) :
    scanBalance line depth (consToFirst '(' lines) = scanBalance line (depth + 1) lines := by
  obtain ⟨l, ls, rfl⟩ := List.exists_cons_of_ne_nil hne
  rw [consToFirst, scanBalance, scanBalance, ofText_open]

theorem scanBalance_close (line depth : Nat) {lines : List (List Char)} (hne : lines ≠ []) :
    scanBalance line (depth + 1) (consToFirst ')' lines) = scanBalance line depth lines := by
  obtain ⟨l, ls, rfl⟩ := List.exists_cons_of_ne_nil hne
  rw [consToFirst, scanBalance, scanBalance, ofText_close]

theorem scanBalance_stray (line : Nat) {lines : List (List Char)} (hne : lines ≠ []) :
    scanBalance line 0 (consToFirst ')' lines) =
      (line :: (scanBalance line 0 lines).1, (scanBalance line 0 lines).2) := by
  obtain ⟨l, ls, rfl⟩ := List.exists_cons_of_ne_nil hne
  rw [consToFirst, scanBalance, scanBalance, ofText_stray, Nat.add_comm 1, List.replicate_succ]
  rfl

theorem scanBalance_other (line depth : Nat) {c : Char} (hc : isParenthesis c = false)
    {lines : List (List Char)} (hne : lines ≠ []) :
    scanBalance line depth (consToFirst c lines) = scanBalance line depth lines := by
  obtain ⟨l, ls, rfl⟩ := List.exists_cons_of_ne_nil hne
  simp only [isParenthesis, Bool.or_eq_false_iff, beq_eq_false_iff_ne] at hc
  rw [consToFirst, scanBalance, scanBalance, ofText_other hc.1 hc.2]

theorem scanBalance_newline (line depth : Nat) (lines : List (List Char)) :
    scanBalance line depth ([] :: lines) = scanBalance (line + 1) depth lines := rfl

theorem parenthesesFrom_cons (start : Nat) (c : Char) (s : List Char) :
    parenthesesFrom start (c :: s) =
      if isParenthesis c = true then (c, start) :: parenthesesFrom (start + 1) s
      else parenthesesFrom (start + 1) s := by
  rw [parenthesesFrom, List.zipIdx_cons, List.filter_cons]
  rfl

theorem lineAt_append (before s : List Char) :
    lineAt (before ++ s) before.length = before.count '\n' + 1 := by
  rw [lineAt, List.take_left]

/-- With forms open at its beginning, a text closes these before its own closers are stray. -/
theorem scanBalance_splitLines (before s : List Char) (depth : Nat) :
    scanBalance (before.count '\n' + 1) depth (splitLines s) =
      (((unmatched (parenthesesFrom before.length s)).1.drop depth).map
          fun p => lineAt (before ++ s) p.2,
        depth - (unmatched (parenthesesFrom before.length s)).1.length +
          (unmatched (parenthesesFrom before.length s)).2.length) := by
  induction s generalizing before depth with
  | nil => simp [splitLines, scanBalance, Balance.ofText, parenthesesFrom, unmatched]
  | cons c s ih =>
    have hne := splitLines_ne_nil s
    have hih := ih (before ++ [c])
    rw [List.length_append, List.length_singleton, List.append_assoc, List.singleton_append] at hih
    rw [parenthesesFrom_cons, splitLines, splitOn_cons, ← splitLines]
    by_cases hn : c = '\n'
    · subst hn
      rw [List.count_append, List.count_singleton_self] at hih
      rw [if_pos rfl, if_neg (by decide), scanBalance_newline, hih]
    have hcount : (before ++ [c]).count '\n' = before.count '\n' := by
      rw [List.count_append, List.count_singleton, if_neg (by simpa using hn), Nat.add_zero]
    rw [hcount] at hih
    rw [if_neg hn]
    by_cases hp : isParenthesis c = true
    · rw [if_pos hp]
      generalize parenthesesFrom (before.length + 1) s = word at hih
      by_cases ho : c = '('
      · subst ho
        rw [scanBalance_open _ _ hne, hih]
        -- The first closer that is stray without the opener is the one that closes it.
        cases h : (unmatched word).1 with
        | nil =>
          rw [unmatched_opener_nil rfl h]
          simp
          omega
        | cons q closers =>
          rw [unmatched_opener_cons rfl h]
          simp
      · obtain rfl : c = ')' := by simpa [isParenthesis, ho] using hp
        rw [unmatched_closer (by simp)]
        cases depth with
        | zero =>
          rw [scanBalance_stray _ hne, hih]
          simp [lineAt_append]
        | succ d =>
          rw [scanBalance_close _ _ hne, hih]
          simp
    · rw [if_neg hp, scanBalance_other _ _ (by simpa using hp) hne, hih]

/-! ## The errors on parentheses -/

theorem map_fst_parentheses (source : List Char) :
    (parentheses source).map Prod.fst = source.filter isParenthesis := by
  rw [parentheses, parenthesesFrom]
  show ((source.zipIdx 0).filter (isParenthesis ∘ Prod.fst)).map Prod.fst = _
  rw [← List.filter_map, List.zipIdx_map_fst]

theorem isParenthesis_of_mem {start : Nat} {source : List Char} :
    ∀ p ∈ parenthesesFrom start source, isParenthesis p.1 = true :=
  fun _ hp => (List.mem_filter.1 hp).2

theorem pairwise_parentheses (source : List Char) :
    (parentheses source).Pairwise fun p q => p.2 < q.2 := by
  have hall : (source.zipIdx 0).Pairwise fun p q => p.2 < q.2 := by
    rw [← List.pairwise_map (f := Prod.snd) (R := (· < ·)), List.zipIdx_map_snd]
    exact List.pairwise_lt_range'
  exact hall.sublist List.filter_sublist

/-- Which parentheses meet no partner depends on nothing but the parentheses. -/
theorem unmatched_congr {word word' : List Mark} (h : word.map Prod.fst = word'.map Prod.fst) :
    (unmatched word).1.map Prod.fst = (unmatched word').1.map Prod.fst ∧
      (unmatched word).2.map Prod.fst = (unmatched word').2.map Prod.fst := by
  induction word generalizing word' with
  | nil =>
    rw [List.map_nil, eq_comm, List.map_eq_nil_iff] at h
    subst h
    exact ⟨rfl, rfl⟩
  | cons p word ih =>
    cases word' with
    | nil => cases h
    | cons q word' =>
      rw [List.map_cons, List.map_cons, List.cons.injEq] at h
      obtain ⟨hpq, hrest⟩ := h
      obtain ⟨hclosers, hopeners⟩ := ih hrest
      by_cases hp : p.1 = '('
      · have hq : q.1 = '(' := by rw [← hpq, hp]
        cases hc : (unmatched word).1 with
        | nil =>
          rw [hc, List.map_nil, eq_comm, List.map_eq_nil_iff] at hclosers
          rw [unmatched_opener_nil hp hc, unmatched_opener_nil hq hclosers, List.map_cons,
            List.map_cons, hpq, hopeners]
          exact ⟨rfl, rfl⟩
        | cons c closers =>
          rw [hc, List.map_cons, eq_comm, List.map_eq_cons_iff] at hclosers
          obtain ⟨c', closers', hc', -, hclosers⟩ := hclosers
          rw [unmatched_opener_cons hp hc, unmatched_opener_cons hq hc']
          exact ⟨hclosers.symm, hopeners⟩
      · have hq : q.1 ≠ '(' := by rwa [← hpq]
        rw [unmatched_closer hp, unmatched_closer hq, List.map_cons, List.map_cons, hpq, hclosers]
        exact ⟨rfl, hopeners⟩

/-- The text behind a parenthesis has the parentheses behind it. -/
theorem exists_parentheses_before {start : Nat} {source : List Char} {p : Mark}
    (h : p ∈ parenthesesFrom start source) : start ≤ p.2 ∧ ∃ before,
      parenthesesFrom start source =
        before ++ p :: parenthesesFrom (p.2 + 1) (source.drop (p.2 + 1 - start)) := by
  induction source generalizing start with
  | nil => cases h
  | cons c s ih =>
    rw [parenthesesFrom_cons] at h ⊢
    have hlater (hp : p ∈ parenthesesFrom (start + 1) s) : start ≤ p.2 ∧ ∃ before,
        parenthesesFrom (start + 1) s =
          before ++ p :: parenthesesFrom (p.2 + 1) ((c :: s).drop (p.2 + 1 - start)) := by
      obtain ⟨hle, before, hbefore⟩ := ih hp
      refine ⟨by omega, before, ?_⟩
      rw [hbefore, show p.2 + 1 - start = p.2 + 1 - (start + 1) + 1 by omega, List.drop_succ_cons]
    split at h
    · next hc =>
      rw [if_pos hc]
      rcases List.mem_cons.1 h with rfl | h
      · exact ⟨le_rfl, [], by simp⟩
      · obtain ⟨hle, before, hbefore⟩ := hlater h
        exact ⟨hle, (c, start) :: before, by rw [hbefore, List.cons_append]⟩
    · next hc =>
      rw [if_neg hc]
      exact hlater h

/-- Openers behind a closer without a partner are left as if nothing stood before them. -/
theorem unmatched_behind {before after : List Mark} {p : Mark} (hbefore : p ∉ before)
    (hafter : p ∉ after) (hp : p ∈ (unmatched (before ++ p :: after)).1) :
    (unmatched (before ++ p :: after)).2 = (unmatched after).2 ∧
      ∃ earlier, (unmatched (before ++ p :: after)).1 = earlier ++ p :: (unmatched after).1 := by
  induction before with
  | nil =>
    rw [List.nil_append] at hp ⊢
    have hchar : p.1 ≠ '(' := (chars_unmatched _).1 p hp
    rw [unmatched_closer hchar]
    exact ⟨rfl, [], rfl⟩
  | cons q before ih =>
    obtain ⟨hpq, hbefore⟩ := not_or.1 (List.mem_cons.not.1 hbefore)
    rw [List.cons_append] at hp ⊢
    by_cases hq : q.1 = '('
    · cases h : (unmatched (before ++ p :: after)).1 with
      | nil =>
        rw [unmatched_opener_nil hq h] at hp
        cases hp
      | cons c closers =>
        rw [unmatched_opener_cons hq h] at hp ⊢
        obtain ⟨hopeners, earlier, hearlier⟩ :=
          ih hbefore (by rw [h]; exact List.mem_cons_of_mem _ hp)
        refine ⟨hopeners, ?_⟩
        -- The opener takes a closer in front of this one, which would be left no more otherwise.
        cases earlier with
        | nil =>
          rw [h, List.nil_append, List.cons.injEq] at hearlier
          rw [hearlier.2] at hp
          exact absurd ((unmatched_sublist after).subset (List.mem_append_left _ hp)) hafter
        | cons e earlier =>
          rw [h, List.cons_append, List.cons.injEq] at hearlier
          exact ⟨earlier, hearlier.2⟩
    · rw [unmatched_closer hq] at hp ⊢
      rcases List.mem_cons.1 hp with rfl | hp
      · exact absurd rfl hpq
      · obtain ⟨hopeners, earlier, hearlier⟩ := ih hbefore hp
        exact ⟨hopeners, q :: earlier, by rw [hearlier, List.cons_append]⟩

/-- What stands behind a closer without a partner leaves the same openers by itself. -/
theorem isReduct_behind {source : List Char} {p : Mark}
    (hp : p ∈ (unmatched (parentheses source)).1) :
    ∃ later, later <:+ (unmatched (parentheses source)).1 ∧
      IsReduct (parenthesesFrom (p.2 + 1) (source.drop (p.2 + 1)))
        (later ++ (unmatched (parentheses source)).2) := by
  have hmem : p ∈ parentheses source := (unmatched_sublist _).subset (List.mem_append_left _ hp)
  obtain ⟨-, before, hbefore⟩ := exists_parentheses_before hmem
  have hnodup : (parentheses source).Nodup := (pairwise_parentheses source).imp fun h he => by
    rw [he] at h
    exact Nat.lt_irrefl _ h
  rw [Nat.sub_zero] at hbefore
  change parentheses source = _ at hbefore
  rw [hbefore] at hp hnodup ⊢
  have hnot := (List.nodup_middle.1 hnodup).notMem
  rw [List.mem_append, not_or] at hnot
  obtain ⟨hopeners, earlier, hearlier⟩ := unmatched_behind hnot.1 hnot.2 hp
  refine ⟨(unmatched (parenthesesFrom (p.2 + 1) (source.drop (p.2 + 1)))).1,
    ⟨earlier ++ [p], ?_⟩, ?_⟩
  · rw [hearlier, List.append_assoc, List.singleton_append]
  · rw [hopeners]
    exact (isReduct_iff isParenthesis_of_mem).2 rfl

/-- The errors on the parentheses of a document in terms of those without a partner. -/
theorem balanceDiagnostics_eq (source : List Char) :
    balanceDiagnostics (splitLines source) =
      (unmatched (parentheses source)).1.map
        (fun p => Finding.strayCloser.onLine (lineAt source p.2)) ++
        if (unmatched (parentheses source)).2.length = 0 then []
        else [(Finding.unclosed (unmatched (parentheses source)).2.length).onLine
          (splitLines source).length] := by
  have hscan := scanBalance_splitLines [] source 0
  rw [List.nil_append, List.drop_zero, Nat.zero_sub, Nat.zero_add] at hscan
  rw [balanceDiagnostics]
  change scanBalance 1 0 (splitLines source) = _ at hscan
  rw [hscan, List.map_map]
  rfl

/-- The messages on parentheses depend on nothing but the parentheses. -/
theorem messages_balanceDiagnostics {source source' : List Char}
    (h : source.filter isParenthesis = source'.filter isParenthesis) :
    (balanceDiagnostics (splitLines source)).map Diagnostic.message =
      (balanceDiagnostics (splitLines source')).map Diagnostic.message := by
  rw [← map_fst_parentheses, ← map_fst_parentheses] at h
  obtain ⟨hclosers, hopeners⟩ := unmatched_congr h
  replace hclosers := congrArg List.length hclosers
  replace hopeners := congrArg List.length hopeners
  rw [List.length_map, List.length_map] at hclosers hopeners
  rw [balanceDiagnostics_eq, balanceDiagnostics_eq, hopeners, List.map_append, List.map_append,
    List.map_map, List.map_map]
  congr 1
  · show (unmatched (parentheses source)).1.map (fun _ => Finding.strayCloser.message) =
      (unmatched (parentheses source')).1.map fun _ => Finding.strayCloser.message
    rw [List.map_const', List.map_const', hclosers]
  · split <;> rfl

/-- A document has an error for each closer that is left when adjacent pairs of parentheses are
taken out again and again, at its line, and one error with the number of openers that are left. They
come before all other errors. The openers behind a closer that is left are left as if nothing stood
before them, and where the lines break does not matter for the messages. -/
theorem unmatched_reported (source : String) :
    ∃ closers openers others,
      (∀ p ∈ closers, p.1 = ')') ∧ (∀ p ∈ openers, p.1 = '(') ∧
      (closers ++ openers).Pairwise (fun p q => p.2 < q.2) ∧
      (∀ rest, IsReduct (parentheses source.toList) rest ↔ rest = closers ++ openers) ∧
      (check source).errors =
        closers.map
          (fun p => ⟨.error, lineAt source.toList p.2, "unmatched closing parenthesis"⟩) ++
          (if openers = [] then []
            else [⟨.error, (splitLines source.toList).length,
              toString openers.length ++ " unclosed " ++
              if openers.length = 1 then "parenthesis" else "parentheses"⟩]) ++ others ∧
      (∀ d ∈ others, d.kind ≠ .strayCloser ∧ d.kind ≠ .unclosed) ∧
      (∀ p ∈ closers, ∃ later, later <:+ closers ∧
        IsReduct (parenthesesFrom (p.2 + 1) (source.toList.drop (p.2 + 1))) (later ++ openers)) ∧
      ∀ other : String, other.toList.filter isParenthesis = source.toList.filter isParenthesis →
        ((check other).errors.filter (·.kind.isOfBalance)).map Diagnostic.message =
          ((check source).errors.filter (·.kind.isOfBalance)).map Diagnostic.message := by
  have hword : ∀ p ∈ parentheses source.toList, isParenthesis p.1 = true := isParenthesis_of_mem
  have hsublist := unmatched_sublist (parentheses source.toList)
  obtain ⟨hclosers, hopeners⟩ := chars_unmatched (parentheses source.toList)
  refine ⟨(unmatched (parentheses source.toList)).1, (unmatched (parentheses source.toList)).2,
    declarationDiagnostics source.toList (splitLines source.toList) ++
      (linesDiagnostics 1 (splitLines source.toList)).filter (·.isError), ?_, hopeners,
    (pairwise_parentheses source.toList).sublist hsublist, fun rest => isReduct_iff hword, ?_, ?_,
    fun p hp => isReduct_behind hp, ?_⟩
  · intro p hp
    have := hword p (hsublist.subset (List.mem_append_left _ hp))
    simpa [isParenthesis, hclosers p hp] using this
  · rw [errors_check, balanceDiagnostics_eq, List.append_assoc]
    simp only [List.length_eq_zero_iff]
    rfl
  · intro d hd
    have hkind := isOfBalance_of_mem_others hd
    exact ⟨ne_of_apply_ne Kind.isOfBalance (by rw [hkind]; decide),
      ne_of_apply_ne Kind.isOfBalance (by rw [hkind]; decide)⟩
  · intro other h
    rw [filter_isOfBalance_errors, filter_isOfBalance_errors]
    exact messages_balanceDiagnostics h

end ClarityCheck.Lint
