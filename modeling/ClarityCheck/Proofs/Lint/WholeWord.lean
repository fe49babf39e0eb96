import ClarityCheck.Proofs.Lint.FunctionName
import ClarityCheck.Proofs.Lint.JoinedTexts

/-!
# Whole words

The search for a word goes on behind each occurrence that it has looked at. It misses none that
stands alone: such an occurrence has no symbol character in front, and within another occurrence
every character is one.

* `findsWord_iff`: the search from a place in a text on
* `containsWord_iff`: the search finds exactly the words that stand alone
* `hasWord_trim`: the blanks around a line do not matter for its words
* `caller_words_found`: the use of the caller's identity on a line
-/

namespace ClarityCheck.Lint

open Text

/-- There is no symbol character here. -/
def Delimits (c : Option Char) : Prop := ∀ d ∈ c, isSymbolChar d = false

/-- The word stands somewhere in the text with no symbol character on either side. -/
def HasWord (word text : List Char) : Prop :=
  ∃ before after, text = before ++ (word ++ after) ∧ Delimits before.getLast? ∧ Delimits after.head?

/-- A text that can be looked for as a word. -/
structure IsSymbol (word : List Char) : Prop where
  ne_nil : word ≠ []
  chars : ∀ c ∈ word, isSymbolChar c = true

theorem isDelimiter_iff (c : Option Char) : isDelimiter c = true ↔ Delimits c := by
  rw [isDelimiter, Option.all_eq_true]
  simp only [Bool.not_eq_true']
  rfl

/-! ## The search -/

/-- The words that stand alone in a text behind a character, or at the beginning of a text, when so
many characters of it are passed over. -/
def Finds (word : List Char) (front : Option Char) (skip : Nat) (text : List Char) : Prop :=
  ∃ before after, text = before ++ (word ++ after) ∧ skip ≤ before.length ∧
    Delimits (front.toList ++ before).getLast? ∧ Delimits after.head?

section

variable {word : List Char} {front : Option Char} {c : Char} {s : List Char}

/-- The character in front of an occurrence behind the first one does not depend on what stands
before that. -/
theorem getLast?_behind (front : Option Char) (before : List Char) :
    (front.toList ++ c :: before).getLast? = ((some c).toList ++ before).getLast? :=
  List.getLast?_append_of_ne_nil _ (List.cons_ne_nil c before)

theorem finds_succ (front : Option Char) (n : Nat) :
    Finds word front (n + 1) (c :: s) ↔ Finds word (some c) n s := by
  constructor
  · rintro ⟨before, after, htext, hskip, hfront, hback⟩
    cases before with
    | nil => cases hskip
    | cons d before =>
      obtain ⟨rfl, hrest⟩ := List.cons.inj htext
      rw [getLast?_behind] at hfront
      exact ⟨before, after, hrest, Nat.le_of_succ_le_succ hskip, hfront, hback⟩
  · rintro ⟨before, after, rfl, hskip, hfront, hback⟩
    rw [← getLast?_behind front] at hfront
    exact ⟨c :: before, after, rfl, Nat.succ_le_succ hskip, hfront, hback⟩

theorem finds_zero : Finds word front 0 (c :: s) ↔
    (∃ rest, c :: s = word ++ rest ∧ Delimits front ∧ Delimits rest.head?) ∨
      Finds word (some c) 0 s := by
  have hempty : (front.toList ++ []).getLast? = front := by cases front <;> rfl
  rw [← finds_succ front]
  constructor
  · rintro ⟨before, after, htext, -, hfront, hback⟩
    cases before with
    | nil => exact .inl ⟨after, htext, hempty ▸ hfront, hback⟩
    | cons d before => exact .inr ⟨d :: before, after, htext, Nat.succ_pos _, hfront, hback⟩
  · rintro (⟨rest, htext, hfront, hback⟩ | ⟨before, after, htext, -, hfront, hback⟩)
    · exact ⟨[], rest, htext, Nat.zero_le _, hempty.symm ▸ hfront, hback⟩
    · exact ⟨before, after, htext, Nat.zero_le _, hfront, hback⟩

/-- Within an occurrence no other one begins that stands alone, so the search may go on behind it.
-/
theorem finds_behind {rest : List Char} (hw : IsSymbol word) (h : c :: s = word ++ rest) :
    Finds word (some c) 0 s ↔ Finds word (some c) (word.length - 1) s := by
  constructor
  · rintro ⟨before, after, rfl, -, hfront, hback⟩
    refine ⟨before, after, rfl, ?_, hfront, hback⟩
    by_contra hlt
    -- The character in front of the inner occurrence is one of the outer one.
    have hstarts : c :: before <+: word :=
      List.prefix_of_prefix_length_le ⟨word ++ after, h⟩ (List.prefix_append word rest)
        (by rw [List.length_cons]; omega)
    have hlast := List.getLast_mem (List.cons_ne_nil c before)
    have hsymbol := hw.chars _ (hstarts.subset hlast)
    rw [hfront _ (List.getLast?_eq_some_getLast (List.cons_ne_nil c before))] at hsymbol
    cases hsymbol
  · rintro ⟨before, after, htext, -, hfront, hback⟩
    exact ⟨before, after, htext, Nat.zero_le _, hfront, hback⟩

end

section

variable {word : List Char}

theorem findsWord_iff (hw : IsSymbol word) (front : Option Char) (skip : Nat) (text : List Char) :
    findsWord word front skip text = true ↔ Finds word front skip text := by
  induction text generalizing front skip with
  | nil =>
    refine iff_of_false (by simp [findsWord]) ?_
    rintro ⟨before, after, h, -⟩
    exact hw.ne_nil (List.append_eq_nil_iff.1 (List.append_eq_nil_iff.1 h.symm).2).1
  | cons c s ih =>
    cases skip with
    | succ n => rw [findsWord, ih, finds_succ]
    | zero =>
      rw [findsWord, finds_zero]
      simp only [← dropStart?_eq_some_iff]
      cases hstart : dropStart? word (c :: s) with
      | none => simp [ih]
      | some rest => simp [ih, isDelimiter_iff, finds_behind hw (dropStart?_eq_some_iff.1 hstart)]

/-- The search finds exactly the words that stand alone. -/
theorem containsWord_iff (hw : IsSymbol word) (text : List Char) :
    containsWord word text = true ↔ HasWord word text := by
  rw [containsWord, findsWord_iff hw]
  refine exists₂_congr fun before after => and_congr_right fun _ => ?_
  exact and_iff_right (Nat.zero_le _)

end

/-! ## Words between other characters -/

section

variable {word : List Char} (hw : IsSymbol word) {c : Char} (hc : isSymbolChar c = false)

include hw hc

theorem IsSymbol.not_mem : c ∉ word := by
  intro hm
  have := hw.chars c hm
  rw [hc] at this
  cases this

/-- A character that is in no symbol stands behind the whole of a word. -/
theorem IsSymbol.split {back t after : List Char} (h : word ++ after = back ++ c :: t) :
    ∃ more, back = word ++ more ∧ after = more ++ c :: t := by
  rcases List.append_eq_append_iff.1 h with h | ⟨more, rfl, hmore⟩
  · exact h
  · cases more with
    | nil => exact ⟨[], by simp, by simpa using hmore.symm⟩
    | cons d more =>
      obtain rfl : c = d := (List.cons.inj hmore).1
      exact absurd (List.mem_append_right _ List.mem_cons_self) (hw.not_mem hc)

/-- A word stands on one side of each character that is in no symbol. -/
theorem hasWord_append_cons (s t : List Char) :
    HasWord word (s ++ c :: t) ↔ HasWord word s ∨ HasWord word t := by
  constructor
  · rintro ⟨before, after, htext, hbefore, hafter⟩
    rcases List.append_eq_append_iff.1 htext with ⟨front, rfl, hfront⟩ | ⟨back, rfl, hback⟩
    · right
      cases front with
      | nil =>
        have hsplit : word ++ after = [] ++ c :: t := hfront.symm
        obtain ⟨more, hnil, -⟩ := hw.split hc hsplit
        exact absurd (List.append_eq_nil_iff.1 hnil.symm).1 hw.ne_nil
      | cons d front =>
        obtain ⟨rfl, rfl⟩ := List.cons.inj hfront
        rw [List.getLast?_append_of_ne_nil _ (List.cons_ne_nil c front)] at hbefore
        refine ⟨front, after, rfl, ?_, hafter⟩
        cases front with
        | nil => simp [Delimits]
        | cons e front => exact hbefore
    · left
      obtain ⟨more, rfl, rfl⟩ := hw.split hc hback
      refine ⟨before, more, rfl, hbefore, ?_⟩
      cases more with
      | nil => simp [Delimits]
      | cons d more => exact hafter
  · rintro (⟨before, after, rfl, hbefore, hafter⟩ | ⟨before, after, rfl, hbefore, hafter⟩)
    · refine ⟨before, after ++ c :: t, by simp, hbefore, ?_⟩
      cases after with
      | nil => simpa [Delimits] using hc
      | cons d after => exact hafter
    · refine ⟨s ++ c :: before, after, by simp, ?_, hafter⟩
      rw [List.getLast?_append_of_ne_nil _ (List.cons_ne_nil c before)]
      cases before with
      | nil => simpa [Delimits] using hc
      | cons d before => exact hbefore

end

/-! ## Lines -/

theorem isSymbolChar_of_isBlank {c : Char} (hc : isBlank c = true) : isSymbolChar c = false := by
  have hall : ∀ n ∈ blankCodes, isSymbolChar (Char.ofNat n) = false := by decide
  rw [← Char.ofNat_toNat c]
  exact hall _ ((isBlank_iff_mem c).1 hc)

theorem hasWord_of_blank {word : List Char} (hw : IsSymbol word) {s : List Char}
    (hs : ∀ c ∈ s, isBlank c = true) : ¬HasWord word s := by
  rintro ⟨before, after, rfl, -⟩
  obtain ⟨c, word', rfl⟩ := List.exists_cons_of_ne_nil hw.ne_nil
  have hblank := isSymbolChar_of_isBlank (hs c (by simp))
  rw [hw.chars c List.mem_cons_self] at hblank
  cases hblank

/-- The blanks around a line do not matter for its words. -/
theorem hasWord_trim {word : List Char} (hw : IsSymbol word) (line : List Char) :
    HasWord word (trim line) ↔ HasWord word line := by
  obtain ⟨a, b, ha, hb, hl⟩ := exists_blanks line
  have hfront {a : List Char} (ha : ∀ c ∈ a, isBlank c = true) (s : List Char) :
      HasWord word (a ++ s) ↔ HasWord word s := by
    induction a with
    | nil => rfl
    | cons c a ih =>
      obtain ⟨hc, ha⟩ := List.forall_mem_cons.1 ha
      have hnil : ¬HasWord word [] := hasWord_of_blank hw (by simp)
      have := hasWord_append_cons hw (isSymbolChar_of_isBlank hc) [] (a ++ s)
      rw [ih ha, or_iff_right hnil] at this
      exact this
  have hback {b : List Char} (hb : ∀ c ∈ b, isBlank c = true) (s : List Char) :
      HasWord word (s ++ b) ↔ HasWord word s := by
    cases b with
    | nil => rw [List.append_nil]
    | cons c b =>
      obtain ⟨hc, hb⟩ := List.forall_mem_cons.1 hb
      rw [hasWord_append_cons hw (isSymbolChar_of_isBlank hc), or_iff_left (hasWord_of_blank hw hb)]
  conv_rhs => rw [hl]
  rw [hback hb, hfront ha]

theorem isSymbol_callerWord : IsSymbol callerWord where
  ne_nil := by decide
  chars := by
    have hall : callerWord.all isSymbolChar = true := by decide
    exact List.all_eq_true.1 hall

theorem isHead_guardHeads : ∀ head ∈ guardHeads, IsHead head := isHead_of_all_all (by decide)

/-- A line of code uses the caller's identity and holds no form that checks it. -/
structure Unguarded (line : List Char) : Prop where
  code : trim line ≠ [] ∧ (trim line).head? ≠ some ';'
  caller : HasWord "tx-sender".toList line
  noEquality : ¬HasForm "is-eq".toList line
  noAssertion : ¬HasForm "asserts!".toList line

theorem hasForm_trim {head : List Char} (hh : IsHead head) (line : List Char) :
    HasForm head (trim line) ↔ HasForm head line := by
  rw [← containsForm_iff, containsForm_trim hh, containsForm_iff]

theorem hasGuard_trim (line : List Char) : containsAnyForm guardHeads (trim line) = true ↔
    HasForm "is-eq".toList line ∨ HasForm "asserts!".toList line := by
  rw [containsAnyForm_iff]
  simp only [guardHeads, List.mem_cons, List.not_mem_nil, or_false, exists_eq_or_imp,
    exists_eq_left]
  rw [hasForm_trim (isHead_guardHeads _ (by decide)),
    hasForm_trim (isHead_guardHeads _ (by decide))]

theorem hasCaller_trim (line : List Char) :
    containsWord callerWord (trim line) = true ↔ HasWord "tx-sender".toList line := by
  rw [containsWord_iff isSymbol_callerWord, hasWord_trim isSymbol_callerWord]
  rfl

/-- The finding on the caller's identity is one on lines that use it unguarded. -/
theorem unguarded_iff (line : List Char) :
    Unguarded line ↔ isCode (trim line) = true ∧
      (containsWord callerWord (trim line) && !containsAnyForm guardHeads (trim line)) = true := by
  rw [Bool.and_eq_true, Bool.not_eq_true', ← Bool.not_eq_true, hasGuard_trim, hasCaller_trim,
    isCode_iff, not_or]
  exact ⟨fun h => ⟨h.code, h.caller, h.noEquality, h.noAssertion⟩,
      fun ⟨hcode, hcaller, hequality, hassertion⟩ =>
    ⟨hcode, hcaller, hequality, hassertion⟩⟩

/-! ## Warnings -/

/-- The warnings on the caller's identity that the check gives for a line. -/
def callerWarnings (source : String) (number : Nat) : List Diagnostic :=
  (atLine number (check source).warnings).filter (·.kind == .unguardedCaller)

/-- The form that a line opens with does not matter for the caller's identity. -/
theorem filter_caller_formFindings (line : List Char) :
    (formFindings line).filter (·.kind == .unguardedCaller) = [] := by
  unfold formFindings
  split
  · rfl
  · dsimp only [functionFindings, nameFindings]
    split_ifs <;> rfl

theorem filter_caller_lineFindings (line : List Char) :
    (lineFindings line).filter (·.kind == .unguardedCaller) =
      if isCode (trim line) then callerFindings (trim line) else [] := by
  rw [lineFindings]
  split
  · rw [List.filter_append, filter_caller_formFindings, List.nil_append, callerFindings]
    split <;> rfl
  · rfl

/-- The warnings of a line are its findings that are no errors. -/
theorem atLine_warnings (source : String) {i : Nat} (h : i < (splitLines source.toList).length) :
    atLine (i + 1) (ofLines (check source).warnings) =
      ((lineFindings (splitLines source.toList)[i]).filter (·.severity != .error)).map
        (·.onLine (i + 1)) := by
  rw [ofLines_warnings, atLine, List.filter_comm, ← atLine, Nat.add_comm i 1,
    atLine_linesDiagnostics 1 h, List.filter_map]
  rfl

theorem callerWarnings_eq (source : String) {i : Nat} (h : i < (splitLines source.toList).length) :
    callerWarnings source (i + 1) =
      ((lineFindings (splitLines source.toList)[i]).filter (·.kind == .unguardedCaller)).map
        (·.onLine (i + 1)) := by
  have hofLines : callerWarnings source (i + 1) =
      (atLine (i + 1) (ofLines (check source).warnings)).filter (·.kind == .unguardedCaller) := by
    rw [callerWarnings, atLine, atLine, ofLines, List.filter_filter, List.filter_filter,
      List.filter_filter]
    refine List.filter_congr fun d _ => ?_
    by_cases hkind : d.kind = .unguardedCaller
    · simp [hkind, Kind.isOfLine]
    · simp [hkind]
  rw [hofLines, atLine_warnings source h, List.filter_map, List.filter_filter]
  refine congrArg _ (List.filter_congr fun f _ => ?_)
  rw [Function.comp_apply, kind_onLine]
  cases f <;> rfl

/-- The search for a word finds exactly the occurrences that stand alone, and so the check warns of
a line of code exactly when the caller's identity stands alone on it and no form that checks the
caller is on it. -/
theorem caller_words_found (source : String) :
    (∀ word, IsSymbol word → ∀ text, containsWord word text = true ↔ HasWord word text) ∧
    IsSymbol "tx-sender".toList ∧
    ∀ i, ∀ h : i < (splitLines source.toList).length,
      (Unguarded (splitLines source.toList)[i] → callerWarnings source (i + 1) =
        [⟨.warning, i + 1, "tx-sender used without is-eq or asserts! on the same line; "
          ++ "possible missing authorization check"⟩]) ∧
      (¬Unguarded (splitLines source.toList)[i] → callerWarnings source (i + 1) = []) := by
  refine ⟨fun word hw text => containsWord_iff hw text, isSymbol_callerWord,
    fun i h => ⟨fun hline => ?_, fun hline => ?_⟩⟩
  · obtain ⟨hcode, hcaller⟩ := (unguarded_iff _).1 hline
    rw [callerWarnings_eq source h, filter_caller_lineFindings, if_pos hcode, callerFindings,
      if_pos hcaller]
    rfl
  · rw [callerWarnings_eq source h, filter_caller_lineFindings]
    split
    · next hcode =>
      rw [callerFindings, if_neg fun hcaller => hline ((unguarded_iff _).2 ⟨hcode, hcaller⟩)]
      rfl
    · rfl

/-- A word that stands alone only behind two occurrences which overlap, and two lines with the
caller's identity, one of which checks it. -/
theorem caller_words_found_overlapping :
    let text := "a-a-a a-a".toList
    let source := "(transfer tx-sender)\n(is-eq tx-sender owner)"
    (IsSymbol "a-a".toList ∧ (containsWord "a-a".toList text = true ↔ HasWord "a-a".toList text)) ∧
    ∃ (h₀ : 0 < (splitLines source.toList).length) (h₁ : 1 < (splitLines source.toList).length),
      (Unguarded (splitLines source.toList)[0] ∧ callerWarnings source 1 =
        [⟨.warning, 1, "tx-sender used without is-eq or asserts! on the same line; "
          ++ "possible missing authorization check"⟩]) ∧
      ¬Unguarded (splitLines source.toList)[1] ∧ callerWarnings source 2 = [] := by
  intro text source
  have hword : IsSymbol "a-a".toList :=
    ⟨by decide, List.all_eq_true.1 (by decide : "a-a".toList.all isSymbolChar = true)⟩
  have h₀ : 0 < (splitLines source.toList).length := by decide +kernel
  have h₁ : 1 < (splitLines source.toList).length := by decide +kernel
  have hcases : Unguarded (splitLines source.toList)[0] ∧
      ¬Unguarded (splitLines source.toList)[1] := by
    rw [unguarded_iff, unguarded_iff]
    decide +kernel +revert
  obtain ⟨hbare, hchecked⟩ := hcases
  obtain ⟨hfound, -, hlines⟩ := caller_words_found source
  exact ⟨⟨hword, hfound _ hword text⟩, h₀, h₁, ⟨hbare, (hlines 0 h₀).1 hbare⟩, hchecked,
    (hlines 1 h₁).2 hchecked⟩

end ClarityCheck.Lint
