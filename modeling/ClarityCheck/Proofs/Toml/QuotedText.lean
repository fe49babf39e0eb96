import ClarityCheck.Json.Printer
import ClarityCheck.Proofs.Settings.VariableText
import ClarityCheck.Toml.Edition

/-!
# Quoted texts

Every text can be written between quotation marks, with the characters that cannot stand for
themselves by their codes. Variables and configuration files read the same text from it.

* `unescape_escaped`: the inside of the quotation marks is read back
* `escaped_induction`: what holds of every text as it stands between quotation marks
* `basicLength_escaped`: a configuration file finds the end of a quoted text
* `read_quoted`: a variable with a quoted text stands for the text
-/

namespace ClarityCheck.Toml

open Json (hexDigit)

/-! ## Characters by their codes -/

/-- The character can stand for itself between quotation marks. -/
def StandsAlone (c : Char) : Prop := Word.isPlain .basic c = true ∧ c ≠ '"' ∧ c ≠ '\\'

instance (c : Char) : Decidable (StandsAlone c) := inferInstanceAs (Decidable (_ ∧ _))

/-- A character as it stands between quotation marks. -/
def escape (c : Char) : List Char :=
  if StandsAlone c then [c]
    else ['\\', 'u', '0', '0', hexDigit (c.toNat / 16), hexDigit (c.toNat % 16)]

/-- A text as it stands between quotation marks. -/
def escaped (s : List Char) : List Char := s.flatMap escape

/-- A text with its quotation marks. -/
def quoted (s : List Char) : List Char := '"' :: (escaped s ++ ['"'])

theorem escaped_cons (c : Char) (s : List Char) : escaped (c :: s) = escape c ++ escaped s :=
  List.flatMap_cons

/-- Only characters of ASCII are written by their codes. -/
theorem toNat_lt_of_not_standsAlone {c : Char} (h : ¬StandsAlone c) : c.toNat < 128 := by
  by_contra hlarge
  refine h ⟨?_, ?_, ?_⟩
  · simp only [Word.isPlain, Bool.or_eq_true, Bool.and_eq_true, decide_eq_true_eq, bne_iff_ne]
    exact .inl (.inr (by omega))
  · rintro rfl
    exact hlarge (by decide)
  · rintro rfl
    exact hlarge (by decide)

theorem hexNat_code : ∀ n < 128,
    (['0', '0', hexDigit (n / 16), hexDigit (n % 16)].takeWhile
      fun c => (Word.hexValue? c).isSome) =
        ['0', '0', hexDigit (n / 16), hexDigit (n % 16)] ∧
      Word.hexNat ['0', '0', hexDigit (n / 16), hexDigit (n % 16)] = n := by decide +kernel

/-- What a character is written as is read as the character. -/
theorem unescape_escape (c : Char) (s : List Char) (position : Nat) : ∃ position',
    Word.unescape .basic position (escape c ++ s) = (Word.unescape .basic position' s).map
      (c :: ·) := by
  unfold escape
  split
  · next h =>
    refine ⟨position + 1, ?_⟩
    rw [List.singleton_append, Word.unescape.eq_def]
    simp only [if_neg h.2.2, if_pos h.1]
  · next h =>
    have hlt := toNat_lt_of_not_standsAlone h
    obtain ⟨hdigits, hvalue⟩ := hexNat_code c.toNat hlt
    have hchar : Word.charOf? c.toNat = some c := by
      rw [Word.charOf?, if_pos (Or.inl (by omega)), Char.ofNat_toNat]
    refine ⟨position + 2 + 4, ?_⟩
    simp only [List.cons_append, List.nil_append]
    rw [Word.unescape.eq_def]
    have hshort : Word.shortEscape? 'u' = none := by decide
    have hlong : Word.escapeDigits? 'u' = some 4 := by decide
    simp only [if_true, hshort, hlong, List.take_succ_cons, List.take_zero, hdigits,
      List.length_cons, List.length_nil, lt_irrefl, if_false, hvalue, hchar, List.drop_succ_cons,
      List.drop_zero, zero_add,
      Nat.reduceAdd]

/-- A text is read back from what it is written as. -/
theorem unescape_escaped (s : List Char) (position : Nat) :
    Word.unescape .basic position (escaped s) = .ok s := by
  induction s generalizing position with
  | nil =>
    show Word.unescape .basic position [] = .ok []
    rw [Word.unescape]
  | cons c s ih =>
    obtain ⟨position', h⟩ := unescape_escape c (escaped s) position
    rw [escaped_cons, h, ih]
    rfl

/-! ## The end of a quoted text -/

theorem hexDigit_standsAlone : ∀ n < 16, StandsAlone (hexDigit n) := by decide

/-- The characters that a character is written as. -/
theorem escape_cases (c : Char) : (escape c = [c] ∧ StandsAlone c) ∨
    ∃ s, escape c = '\\' :: 'u' :: s ∧ ∀ d ∈ s, StandsAlone d := by
  unfold escape
  split
  · next h => exact .inl ⟨rfl, h⟩
  · next h =>
    have hlt := toNat_lt_of_not_standsAlone h
    refine .inr ⟨_, rfl, ?_⟩
    simp only [List.forall_mem_cons]
    exact ⟨by decide, by decide, hexDigit_standsAlone _ (by omega),
      hexDigit_standsAlone _ (by omega), fun _ hd => by cases hd⟩

theorem basicLength_cons {c : Char} (h1 : c ≠ '"') (h2 : c ≠ '\n') (h3 : c ≠ '\\') (s : List Char) :
    Token.basicLength (c :: s) = Token.basicLength s + 1 := by
  cases s with
  | nil => simp [Token.basicLength, h2]
  | cons d s => rw [Token.basicLength, if_neg h1, if_neg h2, if_neg fun h => h3 h.1]

theorem StandsAlone.ne_newline {c : Char} (h : StandsAlone c) : c ≠ '\n' := by
  rintro rfl
  exact absurd h.1 (by decide)

theorem escaped_of_standsAlone {s : List Char} (hs : ∀ c ∈ s, StandsAlone c) : escaped s = s := by
  induction s with
  | nil => rfl
  | cons c s ih =>
    obtain ⟨hc, hs⟩ := List.forall_mem_cons.1 hs
    rw [escaped_cons, ih hs, escape, if_pos hc, List.singleton_append]

/-- What holds of characters that stand alone, of the beginning of a code, and of texts one after
the other holds of what any text is written as. -/
theorem escaped_induction {P : List Char → Prop} (hnil : P [])
    (happend : ∀ v w, P v → P w → P (v ++ w)) (halone : ∀ c, StandsAlone c → P [c])
    (hcode : P ['\\', 'u']) (s : List Char) : P (escaped s) := by
  have hall : ∀ w : List Char, (∀ c ∈ w, StandsAlone c) → P w := by
    intro w hw
    induction w with
    | nil => exact hnil
    | cons c w ih =>
      obtain ⟨hc, hw⟩ := List.forall_mem_cons.1 hw
      exact happend [c] w (halone c hc) (ih hw)
  induction s with
  | nil => exact hnil
  | cons c s ih =>
    rw [escaped_cons]
    refine happend _ _ ?_ ih
    rcases escape_cases c with ⟨he, hc⟩ | ⟨t, he, ht⟩
    · rw [he]
      exact halone c hc
    · rw [he]
      exact happend _ t hcode (hall t ht)

/-- Within what a text is written as, no quotation mark ends it. -/
theorem basicLength_append_escaped (s rest : List Char) :
    Token.basicLength (escaped s ++ rest) = (escaped s).length + Token.basicLength rest := by
  refine escaped_induction
    (P := fun w => ∀ rest, Token.basicLength (w ++ rest) = w.length + Token.basicLength rest)
    (fun rest => by simp) ?_ ?_ ?_ s rest
  · intro v w hv hw rest
    rw [List.append_assoc, hv, hw, List.length_append, Nat.add_assoc]
  · intro c hc rest
    rw [List.singleton_append, basicLength_cons hc.2.1 hc.ne_newline hc.2.2, List.length_singleton,
      Nat.add_comm]
  · -- The backslash is followed by a letter, so it escapes no quotation mark.
    intro rest
    rw [List.cons_append, List.singleton_append, Token.basicLength, if_neg (by decide),
      if_neg (by decide), if_neg (by decide), basicLength_cons (by decide) (by decide) (by decide)]
    simp only [List.length_cons, List.length_nil]
    omega

/-- A configuration file finds the quotation mark at the end of a text. -/
theorem basicLength_escaped (s rest : List Char) :
    Token.basicLength (escaped s ++ '"' :: rest) = (escaped s).length + 1 := by
  have hquote : Token.basicLength ('"' :: rest) = 1 := by cases rest <;> simp [Token.basicLength]
  rw [basicLength_append_escaped, hquote]

/-- The escapes are among those of the first edition. -/
theorem escapeFault?_escaped (s rest : List Char) (position : Nat) :
    ∃ position', Edition.escapeFault? position (escaped s ++ rest) =
      Edition.escapeFault? position' rest := by
  refine escaped_induction (P := fun w => ∀ rest position, ∃ position',
    Edition.escapeFault? position (w ++ rest) = Edition.escapeFault? position' rest)
    (fun rest position => ⟨position, rfl⟩) ?_ ?_ ?_ s rest position
  · intro v w hv hw rest position
    obtain ⟨middle, hv⟩ := hv (w ++ rest) position
    obtain ⟨position', hw⟩ := hw rest middle
    exact ⟨position', by rw [List.append_assoc, hv, hw]⟩
  · intro c hc rest position
    refine ⟨position + 1, ?_⟩
    rw [List.singleton_append, Edition.escapeFault?]
    exact fun d t hd _ => hc.2.2 hd
  · intro rest position
    refine ⟨position + 2, ?_⟩
    rw [List.cons_append, List.singleton_append, Edition.escapeFault?, if_neg (by decide)]

end ClarityCheck.Toml

namespace ClarityCheck.Settings.Variables

open Text Toml

/-! ## Variables -/

theorem quotedLength?_escaped (s rest : List Char) :
    quotedLength? (escaped s ++ '"' :: rest) = some (escaped s).length := by
  have hrest : ∀ rest, quotedLength? (escaped s ++ rest) =
      (quotedLength? rest).map (· + (escaped s).length) := by
    refine escaped_induction
      (P := fun w => ∀ rest, quotedLength? (w ++ rest) = (quotedLength? rest).map (· + w.length)) ?_
        ?_ ?_ ?_ s
    · intro rest
      cases h : quotedLength? rest <;> simp [h]
    · intro v w hv hw rest
      rw [List.append_assoc, hv, hw, Option.map_map, List.length_append]
      exact congrFun (congrArg _ (funext fun n => by simp only [Function.comp_apply]; omega)) _
    · intro c hc rest
      rw [List.singleton_append, quotedLength?]
      · rfl
      · exact fun hquote => hc.2.1 hquote
      · exact fun d t hbackslash _ => hc.2.2 hbackslash
    · exact fun rest => rfl
  rw [hrest]
  exact congrArg some (Nat.zero_add _)

theorem quoted?_escaped (s : List Char) :
    quoted? (escaped s ++ ['"']) = some (String.ofList s, []) := by
  have hfault : Edition.escapeFault? 0 (escaped s) = none := by
    obtain ⟨position, h⟩ := escapeFault?_escaped s [] 0
    rwa [List.append_nil] at h
  have hdrop : (escaped s ++ ['"']).drop ((escaped s).length + 1) = [] := by
    rw [List.drop_eq_nil_iff, List.length_append]
    exact le_rfl
  rw [quoted?, quotedLength?_escaped]
  simp only [List.take_left', hfault, unescape_escaped, hdrop, Option.isSome_none,
    Bool.false_eq_true, if_false]

theorem trim_quoted (s : List Char) : trim (Toml.quoted s) = Toml.quoted s := by
  have hquote : isBlank '"' = false := by decide
  have hstart (t : List Char) : ('"' :: t).dropWhile isBlank = '"' :: t :=
    List.dropWhile_cons_of_neg (by rw [hquote]; exact Bool.false_ne_true)
  have hreverse : (Toml.quoted s).reverse = '"' :: ((escaped s).reverse ++ ['"']) := by
    simp [Toml.quoted]
  have hfront : trimStart (Toml.quoted s) = Toml.quoted s := hstart _
  rw [trim, hfront, trimEnd, hreverse, hstart, ← hreverse, List.reverse_reverse]

/-- A variable with a quoted text stands for the text. -/
theorem read_quoted (s : List Char) :
    read (String.ofList (Toml.quoted s)) = .str (String.ofList s) := by
  have hlist : isList (Toml.quoted s) = false := by
    rw [isList, Toml.quoted, List.head?_cons]
    exact Bool.and_false _
  have hword {word : String} {c : Char} {t : List Char} (hw : word.toList.map lowerAscii = c :: t)
    (hc : c ≠ '"') :
      sameWord (String.ofList (Toml.quoted s)) word = false := by
    rw [sameWord, hw, String.toList_ofList, Toml.quoted, List.map_cons, beq_eq_false_iff_ne]
    exact fun h => hc (List.cons.inj h).1.symm
  have hvalue : value? (2 * (Toml.quoted s).length + 2) (Toml.quoted s) =
      some (.str (String.ofList s), []) := by
    rw [value?, skipSpace_of_trim (trim_quoted s), Toml.quoted]
    simp only [quoted?_escaped, Option.map_some]
    rfl
  have htrue : sameWord (String.ofList (Toml.quoted s)) "true" = false :=
    hword (show _ = 't' :: ['r', 'u', 'e'] by decide) (by decide)
  have hfalse : sameWord (String.ofList (Toml.quoted s)) "false" = false :=
    hword (show _ = 'f' :: ['a', 'l', 's', 'e'] by decide) (by decide)
  simp only [read, String.toList_ofList, trim_quoted, hlist, htrue, hfalse, hvalue,
    Bool.false_eq_true, if_false]

end ClarityCheck.Settings.Variables
