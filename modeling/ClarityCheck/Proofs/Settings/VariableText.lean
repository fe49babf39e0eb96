import ClarityCheck.Proofs.Text.Trimming
import ClarityCheck.Settings.Variables
import Mathlib.Tactic.IntervalCases

/-!
# What the texts of variables stand for

The text of a variable may stand for something else than itself. The texts that stand for themselves
are those without blanks at their ends that are no list, no truth value, no number and no literal.

* `read_of_integer`: integers
* `read_eq_str_iff`: the texts that stand for themselves
* `verbatim_of_letters`: words are among them
-/

namespace ClarityCheck

namespace Settings.Variables

open Text

variable {s r : List Char} {text : String}

theorem isBlank_of_isSpace {c : Char} (h : isSpace c = true) : isBlank c = true := by
  simp only [isSpace, Bool.or_eq_true, beq_iff_eq] at h
  rcases h with (((rfl | rfl) | rfl) | rfl) | rfl <;> decide

theorem skipSpace_of_trim (h : trim s = s) : skipSpace s = s := by
  cases s with
  | nil => rfl
  | cons c s =>
    refine List.dropWhile_cons_of_neg fun hc => ?_
    have hfirst := dropWhile_of_trim h
    rw [List.dropWhile_cons_of_pos (isBlank_of_isSpace hc)] at hfirst
    exact absurd hfirst (dropWhile_ne_cons c s)

/-! ## Numbers -/

/-- The text is an integer of 64 bits or a decimal with a point. -/
def IsNumber (s : List Char) : Prop := (integer? s).isSome ∨ '.' ∈ s ∧ (decimal? s).isSome

/-- The characters of numbers. -/
def numerics : List Char := "0123456789+-.eE".toList

theorem mem_numerics_of_isDigit {c : Char} (h : c.isDigit = true) : c ∈ numerics := by
  have hrange : 48 ≤ c.toNat ∧ c.toNat ≤ 57 := by
    simpa [Char.isDigit, UInt32.le_iff_toNat_le] using h
  rw [← Char.ofNat_toNat c]
  generalize c.toNat = n at hrange
  obtain ⟨hlow, hhigh⟩ := hrange
  interval_cases n <;> decide

/-- Digits behind an optional sign. -/
def SignedDigits (s : List Char) : Prop :=
  ∃ sign ds, s = sign ++ ds ∧ (∀ c ∈ sign, c = '+' ∨ c = '-') ∧ ds ≠ [] ∧ ∀ c ∈ ds, c.isDigit = true

theorem digits?_eq_some {ds : List Char} (h : digits? s = some ds) :
    s = ds ∧ s ≠ [] ∧ ∀ c ∈ s, c.isDigit = true := by
  unfold digits? at h
  split at h
  · next hs =>
    cases h
    exact ⟨rfl, hs.1, by simpa using hs.2⟩
  · cases h

theorem signedDigits_of_read {f g : List Char → Int} {n : Int}
    (h : (match s with
      | '+' :: r => (digits? r).map f
      | '-' :: r => (digits? r).map g
      | r => (digits? r).map f) = some n) : SignedDigits s := by
  split at h
  · next r =>
    obtain ⟨ds, hds, -⟩ := Option.map_eq_some_iff.mp h
    exact ⟨['+'], r, rfl, by simp, (digits?_eq_some hds).2⟩
  · next r =>
    obtain ⟨ds, hds, -⟩ := Option.map_eq_some_iff.mp h
    exact ⟨['-'], r, rfl, by simp, (digits?_eq_some hds).2⟩
  · obtain ⟨ds, hds, -⟩ := Option.map_eq_some_iff.mp h
    exact ⟨[], s, rfl, by simp, (digits?_eq_some hds).2⟩

theorem SignedDigits.numeric (h : SignedDigits s) : ∀ c ∈ s, c ∈ numerics := by
  obtain ⟨sign, ds, rfl, hsign, -, hds⟩ := h
  intro c hc
  rcases List.mem_append.mp hc with hc | hc
  · rcases hsign c hc with rfl | rfl <;> decide
  · exact mem_numerics_of_isDigit (hds c hc)

theorem SignedDigits.no_point (h : SignedDigits s) : '.' ∉ s := by
  obtain ⟨sign, ds, rfl, hsign, -, hds⟩ := h
  intro hpoint
  rcases List.mem_append.mp hpoint with hpoint | hpoint
  · exact absurd (hsign '.' hpoint) (by decide)
  · exact absurd (hds '.' hpoint) (by decide)

theorem SignedDigits.digit (h : SignedDigits s) : ∃ c ∈ s, c.isDigit = true := by
  obtain ⟨sign, ds, rfl, -, hne, hds⟩ := h
  obtain ⟨c, hc⟩ := List.exists_mem_of_ne_nil ds hne
  exact ⟨c, List.mem_append_right sign hc, hds c hc⟩

theorem integer?_digits (h : (integer? s).isSome) : SignedDigits s := by
  obtain ⟨n, hn⟩ := Option.isSome_iff_exists.mp h
  exact signedDigits_of_read (Option.filter_eq_some_iff.mp hn).1

theorem exponent?_numeric (h : (exponent? s).isSome) : ∀ c ∈ s, c ∈ numerics := by
  cases s with
  | nil => simp
  | cons c s =>
    simp only [exponent?] at h
    split at h
    · next hc =>
      obtain ⟨n, hn⟩ := Option.isSome_iff_exists.mp h
      have hfirst : c ∈ numerics := by rcases hc with rfl | rfl <;> decide
      exact List.forall_mem_cons.mpr ⟨hfirst, (signedDigits_of_read hn).numeric⟩
    · cases h

/-- A decimal has a point behind an optional sign and digits, and it stands for a number or nothing.
-/
theorem decimal?_eq_some {v : Json} (h : decimal? s = some v) :
    ∃ unsigned r : List Char, (∀ c ∈ s, c ∈ unsigned ∨ c = '-' ∨ c = '+') ∧
      unsigned.dropWhile Char.isDigit = '.' :: r ∧ (exponent? (r.dropWhile Char.isDigit)).isSome ∧
      (v = .null ∨ ∃ n, v = .num n) := by
  unfold decimal? at h
  generalize hunsigned : (if s.head? == some '-' || s.head? == some '+' then s.tail else s) =
    unsigned at h
  have hsign : ∀ c ∈ s, c ∈ unsigned ∨ c = '-' ∨ c = '+' := by
    subst hunsigned
    cases s with
    | nil => simp
    | cons d s => by_cases hd : d = '-' ∨ d = '+' <;> simp_all
  simp only at h
  split at h
  · next r hr =>
    split at h
    · cases h
    · obtain ⟨e, he, rfl⟩ := Option.map_eq_some_iff.mp h
      refine ⟨unsigned, r, hsign, hr, by simp [he], ?_⟩
      split
      · exact .inl rfl
      · exact .inr ⟨_, rfl⟩
  · cases h

theorem decimal?_numeric (h : (decimal? s).isSome) : ∀ c ∈ s, c ∈ numerics := by
  obtain ⟨v, hv⟩ := Option.isSome_iff_exists.mp h
  obtain ⟨unsigned, r, hsign, hr, hexponent, -⟩ := decimal?_eq_some hv
  have hdigits (l : List Char) : ∀ c ∈ l.takeWhile Char.isDigit, c ∈ numerics := fun c hc =>
    mem_numerics_of_isDigit (List.all_eq_true.mp List.all_takeWhile c hc)
  have hrest : ∀ c ∈ r, c ∈ numerics := by
    rw [← List.takeWhile_append_dropWhile (p := Char.isDigit) (l := r)]
    exact List.forall_mem_append.mpr ⟨hdigits r, exponent?_numeric hexponent⟩
  have hunsigned : ∀ c ∈ unsigned, c ∈ numerics := by
    rw [← List.takeWhile_append_dropWhile (p := Char.isDigit) (l := unsigned), hr]
    exact List.forall_mem_append.mpr ⟨hdigits unsigned, List.forall_mem_cons.mpr ⟨by decide, hrest⟩⟩
  intro c hc
  rcases hsign c hc with hc | rfl | rfl
  · exact hunsigned c hc
  · decide
  · decide

theorem IsNumber.numeric (h : IsNumber s) : ∀ c ∈ s, c ∈ numerics := by
  rcases h with h | ⟨-, h⟩
  · exact (integer?_digits h).numeric
  · exact decimal?_numeric h

theorem IsNumber.ne_nil (h : IsNumber s) : s ≠ [] := by
  rintro rfl
  rcases h with h | ⟨h, -⟩
  · cases h
  · cases h

theorem IsNumber.digit_or_point (h : IsNumber s) : ∃ c ∈ s, c.isDigit = true ∨ c = '.' := by
  rcases h with h | ⟨hpoint, -⟩
  · obtain ⟨c, hc, hdigit⟩ := (integer?_digits h).digit
    exact ⟨c, hc, .inl hdigit⟩
  · exact ⟨'.', hpoint, .inr rfl⟩

/-! ## Words -/

/-- The text begins like a list, an object or a quoted text. -/
def opens (s : List Char) : Bool := s.head?.any fun c => "[\x7b\"'".toList.contains c

theorem isList_eq (s : List Char) : isList s = (s.contains ',' && !opens s) := rfl

/-- A text that opens nothing is a truth value or a word, perhaps with something behind it. -/
theorem value?_of_not_opens (h : opens s = false) (hs : skipSpace s = s) (fuel : Nat) :
    value? (fuel + 1) s = match truth? s with
      | some (b, rest) => some (.bool b, skipSpace rest)
      | none => some ((readWord s).1, skipSpace (readWord s).2) := by
  rw [value?, hs]
  split
  case h_5 => cases truth? s <;> rfl
  all_goals simp [opens] at h

theorem truth?_eq_some {b : Bool} (h : truth? s = some (b, r)) :
    s = "true".toList ++ r ∨ s = "false".toList ++ r := by
  unfold truth? at h
  split at h
  · next hr =>
    cases h
    exact .inl (dropStart?_eq_some_iff.mp hr)
  · obtain ⟨r', hr, hb⟩ := Option.map_eq_some_iff.mp h
    cases hb
    exact .inr (dropStart?_eq_some_iff.mp hr)

/-- A trimmed text that is no number is a word for itself. -/
theorem word_of_not_isNumber (hs : trim s = s) (h : ¬IsNumber s) :
    word s = .str (String.ofList s) := by
  have hinteger : integer? s = none := by
    by_contra hne
    exact h (.inl (Option.isSome_iff_ne_none.mpr hne))
  have hdecimal : (if s.contains '.' then decimal? s else none) = none := by
    split
    · next hpoint =>
      by_contra hne
      exact h (.inr ⟨by simpa using hpoint, Option.isSome_iff_ne_none.mpr hne⟩)
    · rfl
  simp only [word, hs, hdecimal, hinteger]

/-- A number is no word for itself. -/
theorem word_of_isNumber (hs : trim s = s) (h : IsNumber s) (t : String) : word s ≠ .str t := by
  simp only [word, hs]
  split
  · next v hv =>
    split at hv
    · obtain ⟨-, -, -, -, -, rfl | ⟨n, rfl⟩⟩ := decimal?_eq_some hv <;> simp
    · cases hv
  · next hdecimal =>
    have hinteger : (integer? s).isSome := h.resolve_right fun ⟨hpoint, hd⟩ => by
      simp only [List.contains_iff_mem, hpoint, ↓reduceIte] at hdecimal
      simp [hdecimal] at hd
    obtain ⟨n, hn⟩ := Option.isSome_iff_exists.mp hinteger
    simp [hn]

/-! ## Literals -/

theorem length_of_map {r : Toml.Checked (List Char)} {c : Char} {t : List Char} {n : Nat}
    (h : r.map (c :: ·) = .ok t) (hr : ∀ {t' : List Char}, r = .ok t' → t'.length ≤ n) :
    t.length ≤ n + 1 := by
  cases r with
  | error => cases h
  | ok t' =>
    cases h
    simpa using hr rfl

/-- What a text with escapes stands for is no longer than the text. -/
theorem length_unescape {q : Toml.Quote} {position : Nat} {t : List Char}
    (h : Toml.Word.unescape q position s = .ok t) : t.length ≤ s.length := by
  fun_induction Toml.Word.unescape q position s generalizing t
  case case1 =>
    cases h
    simp
  case case2 | case4 | case6 | case8 | case11 | case12 => cases h
  -- An escape takes at least two characters and stands for one.
  case case3 d r e _ ih =>
    have := length_of_map h ih
    simp only [List.length_cons]
    omega
  case case5 d r _ n _ digits _ e _ ih =>
    have := length_of_map h ih
    simp only [List.length_cons, List.length_drop] at *
    omega
  case case7 d r _ _ isSpace _ _ rest ih =>
    have hrest : rest.length ≤ r.length := (List.dropWhile_sublist isSpace).length_le
    have := ih h
    simp only [List.length_cons]
    omega
  case case9 ih => exact length_of_map h ih
  case case10 ih =>
    have := ih h
    simp only [List.length_cons]
    omega

theorem length_quoted? {t : String} (h : quoted? s = some (t, r)) : t.toList.length ≤ s.length := by
  unfold quoted? at h
  split at h
  · cases h
  · next n hn =>
    split at h
    · cases h
    · split at h
      · next t' ht' =>
        cases h
        have := length_unescape ht'
        rw [List.length_take] at this
        simp only [String.toList_ofList]
        omega
      · cases h

/-- A text that a quotation mark opens is longer than what it stands for. -/
theorem length_of_opens {fuel : Nat} {t : String} (h : opens s = true) (hs : skipSpace s = s)
    (hv : value? (fuel + 1) s = some (.str t, r)) : t.toList.length < s.length := by
  rw [value?, hs] at hv
  obtain ⟨⟨v, rest⟩, hread, hv⟩ := Option.map_eq_some_iff.mp hv
  cases hv
  split at hread
  · obtain ⟨_, -, h⟩ := Option.map_eq_some_iff.mp hread
    cases h
  · obtain ⟨_, -, h⟩ := Option.map_eq_some_iff.mp hread
    cases h
  · obtain ⟨⟨t', _⟩, ht', h⟩ := Option.map_eq_some_iff.mp hread
    cases h
    exact Nat.lt_succ_of_le (length_quoted? ht')
  · split at hread
    · cases hread
      simp
    · cases hread
  · next hne₁ hne₂ hne₃ hne₄ =>
    cases s with
    | nil => cases h
    | cons c s =>
      have hc : c = '[' ∨ c = '\x7b' ∨ c = '"' ∨ c = '\'' := by simpa [opens] using h
      rcases hc with rfl | rfl | rfl | rfl
      · exact absurd rfl (hne₁ s)
      · exact absurd rfl (hne₂ s)
      · exact absurd rfl (hne₃ s)
      · exact absurd rfl (hne₄ s)

/-! ## The texts that stand for themselves -/

/-- A list, an object or a quoted text from its beginning to its end. -/
def IsLiteral (s : List Char) : Prop :=
  opens s = true ∧ ∃ v, value? (2 * s.length + 2) s = some (v, [])

/-- A trimmed text that stands for nothing else. -/
structure IsPlain (s : List Char) : Prop where
  noList : ',' ∈ s → opens s = true
  noTrue : sameWord (String.ofList s) "true" = false
  noFalse : sameWord (String.ofList s) "false" = false
  noNumber : ¬IsNumber s
  noLiteral : ¬IsLiteral s

/-- A text that stands for itself. -/
structure Verbatim (text : String) : Prop where
  trimmed : trim text.toList = text.toList
  plain : IsPlain text.toList

/-- What a text stands for that has been trimmed. -/
theorem read_ofList_trim (text : String) : read (String.ofList (trim text.toList)) = read text := by
  simp only [read, String.toList_ofList, trim_trim]

theorem sameWord_of_truth {word : String} (ht : trim s = s) (h : s = word.toList ++ r)
    (hr : skipSpace r = []) : sameWord (String.ofList s) word = true := by
  have hblank : ∀ c ∈ r, isBlank c = true := fun c hc =>
    isBlank_of_isSpace (List.dropWhile_eq_nil_iff.mp hr c hc)
  subst h
  obtain rfl := eq_nil_of_trim_append ht hblank
  simp [sameWord]

/-- A word with nothing behind it is the whole text. -/
theorem word_of_readWord (h : skipSpace (readWord s).2 = []) : (readWord s).1 = word s := by
  have hrest : (readWord s).2 = [] := by
    cases hd : (readWord s).2 with
    | nil => rfl
    | cons c r =>
      have hspace : isSpace c = true := List.dropWhile_eq_nil_iff.mp (hd ▸ h) c (by simp)
      have hsep : isSeparator c = true := by
        have := List.head?_dropWhile_not (fun c => !isSeparator c) s
        rw [show s.dropWhile (fun c => !isSeparator c) = c :: r from hd] at this
        simpa using this
      simp only [isSpace, Bool.or_eq_true, beq_iff_eq] at hspace
      rcases hspace with (((rfl | rfl) | rfl) | rfl) | rfl <;> exact absurd hsep (by decide)
  have hall := List.takeWhile_append_dropWhile (p := fun c => !isSeparator c) (l := s)
  rw [show s.dropWhile (fun c => !isSeparator c) = [] from hrest, List.append_nil] at hall
  rw [readWord, hall]

theorem isList_of_isPlain (h : IsPlain s) : isList s = false := by
  rw [isList_eq]
  cases hc : s.contains ',' with
  | false => rfl
  | true => simp [h.noList (by simpa using hc)]

theorem read_of_isPlain (ht : trim s = s) (h : IsPlain s) :
    read (String.ofList s) = .str (String.ofList s) := by
  simp only [read, String.toList_ofList, ht, isList_of_isPlain h, h.noTrue, h.noFalse,
    Bool.false_eq_true, ↓reduceIte]
  split
  · next v hv =>
    cases hopens : opens s with
    | true => exact absurd ⟨hopens, v, hv⟩ h.noLiteral
    | false =>
      rw [value?_of_not_opens hopens (skipSpace_of_trim ht)] at hv
      split at hv
      · next b r hr =>
        obtain ⟨-, hrest⟩ := Prod.mk.inj (Option.some.inj hv)
        rcases truth?_eq_some hr with hs | hs
        · exact absurd (sameWord_of_truth ht hs hrest) (by simp [h.noTrue])
        · exact absurd (sameWord_of_truth ht hs hrest) (by simp [h.noFalse])
      · obtain ⟨hword, hrest⟩ := Prod.mk.inj (Option.some.inj hv)
        rw [← hword, word_of_readWord hrest, word_of_not_isNumber ht h.noNumber]
  · rfl

/-! ## The texts that do not -/

theorem numerics_plain : ∀ c ∈ numerics, isBlank c = false ∧ isSeparator c = false ∧
    "[\x7b\"'".toList.contains c = false ∧ lowerAscii c ≠ 't' ∧ lowerAscii c ≠ 'f' := by
  have hall : numerics.all (fun c => isBlank c = false ∧ isSeparator c = false ∧
      "[\x7b\"'".toList.contains c = false ∧ lowerAscii c ≠ 't' ∧ lowerAscii c ≠ 'f') = true := by
        decide
  exact fun c hc => of_decide_eq_true (List.all_eq_true.mp hall c hc)

namespace IsNumber

theorem trim_eq (h : IsNumber s) : trim s = s :=
  trim_of_no_blank fun c hc => (numerics_plain c (h.numeric c hc)).1

theorem head (h : IsNumber s) : ∃ c r, s = c :: r ∧ c ∈ numerics := by
  cases s with
  | nil => exact absurd rfl h.ne_nil
  | cons c r => exact ⟨c, r, rfl, h.numeric c (by simp)⟩

theorem not_opens (h : IsNumber s) : opens s = false := by
  obtain ⟨c, r, rfl, hc⟩ := h.head
  exact (numerics_plain c hc).2.2.1

theorem isList_eq_false (h : IsNumber s) : isList s = false := by
  have hcomma : s.contains ',' = false := by
    by_contra hne
    have := (numerics_plain ',' (h.numeric ',' (by simpa using hne))).2.1
    revert this
    decide
  rw [isList_eq, hcomma]
  rfl

theorem not_sameWord (h : IsNumber s) :
    sameWord (String.ofList s) "true" = false ∧ sameWord (String.ofList s) "false" = false := by
  obtain ⟨c, r, rfl, hc⟩ := h.head
  have hlower := (numerics_plain c hc).2.2.2
  have hne {d : Char} {word : List Char} (hd : lowerAscii c ≠ d) :
      (c :: r).map lowerAscii ≠ d :: word := by
    rw [List.map_cons]
    exact fun h => hd (List.cons.inj h).1
  simp only [sameWord, String.toList_ofList, beq_eq_false_iff_ne]
  exact ⟨hne hlower.1, hne hlower.2⟩

theorem truth?_eq_none (h : IsNumber s) : truth? s = none := by
  obtain ⟨c, r, rfl, hc⟩ := h.head
  cases ht : truth? (c :: r) with
  | none => rfl
  | some p =>
    rcases truth?_eq_some (r := p.2) (b := p.1) ht with hs | hs
    · exact absurd ((List.cons.inj hs).1 ▸ hc) (by decide)
    · exact absurd ((List.cons.inj hs).1 ▸ hc) (by decide)

theorem readWord_eq (h : IsNumber s) : readWord s = (word s, []) := by
  have hall : ∀ c ∈ s, (!isSeparator c) = true := fun c hc => by
    simp [(numerics_plain c (h.numeric c hc)).2.1]
  rw [readWord, List.takeWhile_eq_self_iff.mpr hall, List.dropWhile_eq_nil_iff.mpr hall]

/-- A number is read as a word. -/
theorem read_eq (h : IsNumber s) : read (String.ofList s) = word s := by
  have hvalue := value?_of_not_opens h.not_opens (skipSpace_of_trim h.trim_eq) (2 * s.length + 1)
  rw [h.truth?_eq_none, h.readWord_eq] at hvalue
  simp only [read, String.toList_ofList, h.trim_eq, h.isList_eq_false, h.not_sameWord.1,
    h.not_sameWord.2, Bool.false_eq_true, ↓reduceIte, hvalue]
  rfl

end IsNumber

/-- Integers. -/
theorem read_of_integer {n : Int} (h : integer? text.toList = some n) :
    read text = .num (.integer n) := by
  have hnumber : IsNumber text.toList := .inl (by simp [h])
  have hpoint : text.toList.contains '.' = false := by
    simpa using (integer?_digits (by simp [h])).no_point
  have hread := hnumber.read_eq
  rw [String.ofList_toList] at hread
  rw [hread]
  simp only [word, hnumber.trim_eq, hpoint, Bool.false_eq_true, ↓reduceIte, h]

/-- A text that stands for a text is plain, or a literal that is longer than what it stands for. -/
theorem isPlain_or_longer {t : String} (ht : trim s = s) (h : read (String.ofList s) = .str t) :
    IsPlain s ∨ t.toList.length < s.length := by
  have hnumber : ¬IsNumber s := fun hn => word_of_isNumber ht hn t (hn.read_eq ▸ h)
  simp only [read, String.toList_ofList, ht] at h
  split at h
  · cases h
  split at h
  · cases h
  split at h
  · cases h
  next hlist htrue hfalse =>
  by_cases hliteral : IsLiteral s
  · obtain ⟨hopens, v, hv⟩ := hliteral
    rw [hv] at h
    obtain rfl : v = .str t := h
    exact .inr (length_of_opens hopens (skipSpace_of_trim ht) hv)
  · refine .inl ⟨fun hcomma => ?_, by simpa using htrue, by simpa using hfalse, hnumber, hliteral⟩
    simpa [isList_eq, hcomma] using hlist

/-- The texts that stand for themselves. -/
theorem read_eq_str_iff : read text = .str text ↔ Verbatim text := by
  constructor
  · intro h
    have hread : read (String.ofList (trim text.toList)) = .str text := by rw [read_ofList_trim, h]
    have hplain : IsPlain (trim text.toList) :=
      (isPlain_or_longer (trim_trim _) hread).resolve_right
        (Nat.not_lt.mpr (trim_sublist text.toList).length_le)
    have htrim : trim text.toList = text.toList := by
      rw [read_of_isPlain (trim_trim _) hplain] at hread
      have hsame : String.ofList (trim text.toList) = text := by injection hread
      rw [← String.toList_ofList (l := trim text.toList), hsame]
    exact ⟨htrim, htrim ▸ hplain⟩
  · intro h
    simpa using read_of_isPlain h.trimmed h.plain

instance (text : String) : Decidable (Verbatim text) :=
  match h : read text with
  | .str t =>
    if ht : t = text then .isTrue (read_eq_str_iff.mp (ht ▸ h))
    else .isFalse fun hv => ht (Json.str.inj (h.symm.trans (read_eq_str_iff.mpr hv)))
  | .null | .bool _ | .num _ | .arr _ | .obj _ =>
    .isFalse fun hv => Json.noConfusion (h.symm.trans (read_eq_str_iff.mpr hv))

example : Verbatim "https://example.com/releases" := by decide +kernel

-- A release like this one is a number, and filters for several targets are a list.
example : ¬Verbatim "2.1" ∧ ¬Verbatim "cli=debug,http=warn" := by decide +kernel

/-! ## Words that stand for themselves -/

/-- The characters of words. -/
def letters : List Char := "abcdefghijklmnopqrstuvwxyzABCDEFGHIJKLMNOPQRSTUVWXYZ_".toList

theorem letters_plain :
    ∀ c ∈ letters, isBlank c = false ∧ c ≠ ',' ∧ "[\x7b\"'".toList.contains c = false ∧
    c.isDigit = false ∧ c ≠ '.' := by
  have hall :
    letters.all (fun c => isBlank c = false ∧ c ≠ ',' ∧ "[\x7b\"'".toList.contains c = false ∧
      c.isDigit = false ∧ c ≠ '.') = true := by decide
  exact fun c hc => of_decide_eq_true (List.all_eq_true.mp hall c hc)

theorem mem_letters_of_lowerAscii {c : Char} (h : lowerAscii c ∈ letters) : c ∈ letters := by
  unfold lowerAscii at h
  split at h
  · next hrange =>
    have hcode : 65 ≤ c.toNat ∧ c.toNat ≤ 90 := by
      simpa [Char.le_def, UInt32.le_iff_toNat_le] using hrange
    rw [← Char.ofNat_toNat c]
    generalize c.toNat = n at hcode
    obtain ⟨hlow, hhigh⟩ := hcode
    interval_cases n <;> decide
  · exact h

/-- Words other than the two truth values stand for themselves. -/
theorem verbatim_of_letters (h : ∀ c ∈ text.toList, c ∈ letters)
    (htrue : sameWord text "true" = false) (hfalse : sameWord text "false" = false) :
    Verbatim text where
  trimmed := trim_of_no_blank fun c hc => (letters_plain c (h c hc)).1
  plain :=
    { noList := fun hcomma => absurd rfl (letters_plain ',' (h ',' hcomma)).2.1
      noTrue := by simpa using htrue
      noFalse := by simpa using hfalse
      noNumber := fun hnumber => by
        obtain ⟨c, hc, hdigit⟩ := hnumber.digit_or_point
        have hplain := (letters_plain c (h c hc)).2.2.2
        rcases hdigit with hdigit | rfl
        · exact absurd hdigit (by simp [hplain.1])
        · exact hplain.2 rfl
      noLiteral := fun hliteral => by
        cases hs : text.toList with
        | nil => exact absurd hliteral.1 (by simp [hs, opens])
        | cons c s =>
          have hopens := hliteral.1
          rw [hs] at hopens
          exact absurd hopens
            (by simpa [opens] using (letters_plain c (h c (by simp [hs]))).2.2.1) }

end Settings.Variables

end ClarityCheck
