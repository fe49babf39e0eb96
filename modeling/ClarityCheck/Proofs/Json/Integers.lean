import ClarityCheck.Json.Printer
import ClarityCheck.Json.Reader
import ClarityCheck.Proofs.Decimal.Rounding

/-!
# Reading integers

The digits of an integer are read as this integer when it has 64 bits and otherwise as a double,
which there is for all integers below `integerLimit` and not for the limit itself.

* `ofDigits_ok`: which integers are numbers
* `asRead_integer`: integers of 64 bits stay what they are
* `yields_readUnsigned`: the digits of an integer are read up to what ends the number
-/

namespace ClarityCheck.Json

open Decimal

/-! ## What a reader takes -/

/-- The outcome of a reader without the proof that something was consumed. -/
def plain {α : Type} {p : List Char → Prop} (x : Except Fault (α × { r : List Char // p r })) :
    Except Fault (α × List Char) :=
  x.map fun y => (y.1, y.2.1)

/-- A reader has taken a value from the front of a text and left a rest. -/
def Yields {α : Type} {p : List Char → Prop}
    (x : Except Fault (α × { r : List Char // p r })) (a : α) (rest : List Char) : Prop :=
  plain x = .ok (a, rest)

theorem Yields.eq {α : Type} {p : List Char → Prop}
    {x : Except Fault (α × { r : List Char // p r })} {a : α} {rest : List Char}
    (h : Yields x a rest) : ∃ hp, x = .ok (a, ⟨rest, hp⟩) := by
  match x, h with
  | .ok (_, ⟨_, hp⟩), rfl => exact ⟨hp, rfl⟩

/-! ## Integers -/

theorem isDigit_iff (c : Char) : c.isDigit = true ↔ '0' ≤ c ∧ c ≤ '9' := by
  show (decide _ && decide _) = true ↔ _
  rw [Bool.and_eq_true, decide_eq_true_iff, decide_eq_true_iff]
  rfl

/-- The digits that fit into 64 bits and what they leave out. -/
theorem digitsOnto_spec (s : List Char) (hs : ∀ c ∈ s, c.isDigit = true) :
    ∀ n < 2 ^ 64, (digitsOnto n s).1 < 2 ^ 64 ∧
      (digitsOnto n s).1 * 10 ^ (digitsOnto n s).2 ≤ Nat.ofDigitChars 10 s n ∧
      ((digitsOnto n s).2 = 0 ∧ (digitsOnto n s).1 = Nat.ofDigitChars 10 s n ∨
        2 ^ 64 ≤ (digitsOnto n s).1 * 10 + 9 ∧ 2 ^ 64 ≤ Nat.ofDigitChars 10 s n) := by
  induction s with
  | nil => exact fun n hn => ⟨hn, by simp [digitsOnto], .inl ⟨rfl, rfl⟩⟩
  | cons c s ih =>
    intro n hn
    have hc : c.toNat - 0x30 ≤ 9 := by
      have hhigh : c.toNat ≤ 57 := ((isDigit_iff c).1 (hs c (by simp))).2
      omega
    have hvalue : Nat.ofDigitChars 10 (c :: s) n
        = Nat.ofDigitChars 10 s (n * 10 + (c.toNat - 0x30)) := by
      rw [Nat.ofDigitChars_cons, Nat.mul_comm]
      rfl
    rw [hvalue]
    -- Behind the first digit that does not fit, digits are only counted.
    by_cases hfit : n * 10 + (c.toNat - 0x30) < 0x1_0000_0000_0000_0000
    · rw [digitsOnto, if_pos hfit]
      exact ih (fun d hd => hs d (by simp [hd])) _ hfit
    · have hgrow := @Nat.ofDigitChars_eq_ofDigitChars_zero s (n * 10 + (c.toNat - 0x30))
      have hle : 10 ^ s.length * (n * 10 + (c.toNat - 0x30))
          ≤ Nat.ofDigitChars 10 s (n * 10 + (c.toNat - 0x30)) := by omega
      have hpow : 1 ≤ 10 ^ s.length := Nat.one_le_pow _ _ (by decide)
      have hlow : n * 10 ^ (s.length + 1) ≤ 10 ^ s.length * (n * 10 + (c.toNat - 0x30)) := by
        rw [pow_succ]
        nlinarith
      have hfull : n * 10 + (c.toNat - 0x30) ≤ 10 ^ s.length * (n * 10 + (c.toNat - 0x30)) :=
        Nat.le_mul_of_pos_left _ hpow
      rw [digitsOnto, if_neg hfit]
      exact ⟨hn, hlow.trans hle, .inr ⟨by omega, by omega⟩⟩

/-- The smallest natural number whose digits are too large for a number. Its first twenty digits and
the power of ten behind them are rounded one by one before they are multiplied. -/
def integerLimit : Nat := 17976931348623156225 * 10 ^ 289

/-- The number that the digits of a natural number are read as behind a sign. -/
def Number.ofDigits (negative : Bool) (n : Nat) : Except Fault Number :=
  let p := digitsOnto 0 (Nat.toDigits 10 n)
  finishInteger negative p.1 p.2 []

theorem finishInteger_ok {negative : Bool} {s e : Nat} {rest rest' : List Char} {x : Number}
    (h : finishInteger negative s e rest = .ok x) : finishInteger negative s e rest' = .ok x := by
  unfold finishInteger finishDouble at *
  grind

theorem isDigit_of_mem_toDigits {n : Nat} : ∀ c ∈ Nat.toDigits 10 n, c.isDigit = true :=
  fun _ => Nat.isDigit_of_mem_toDigits (by decide) (by decide)

/-- Integers below the limit are numbers. -/
theorem ofDigits_ok (negative : Bool) {n : Nat} (hn : n < integerLimit) :
    ∃ x, Number.ofDigits negative n = .ok x := by
  obtain ⟨hs, hvalue, hover⟩ :=
    digitsOnto_spec (Nat.toDigits 10 n) isDigit_of_mem_toDigits 0 (by decide)
  rw [Nat.ofDigitChars_ten_toDigits] at hvalue hover
  unfold Number.ofDigits
  generalize digitsOnto 0 (Nat.toDigits 10 n) = p at *
  obtain ⟨s, e⟩ := p
  dsimp only at *
  unfold finishInteger finishDouble
  split
  · exact ⟨_, rfl⟩
  next he =>
  have hsome : (Binary64.ofRounded? s e).isSome = true := by
    -- With 289 digits left out, the others decide. With fewer, no 64 bits are too large, and with
    -- more, the bits that are taken would have had room for another digit.
    rcases Nat.lt_trichotomy e 289 with h | rfl | h
    · exact Binary64.isSome_ofRounded?_of_le (t := 2 ^ 64) (f := 288) hs.le (by omega) (by decide)
        (by decide +kernel)
    · have : s < 17976931348623156225 :=
        Nat.lt_of_mul_lt_mul_right (hvalue.trans_lt hn)
      exact Binary64.isSome_ofRounded?_of_le (t := 17976931348623156224) (f := 289) (by omega)
        le_rfl (by decide) (by decide +kernel)
    · obtain ⟨k, rfl⟩ := Nat.exists_eq_add_of_lt h
      rw [pow_succ, pow_add] at hvalue
      unfold integerLimit at hn
      generalize 10 ^ 289 = t at *
      have : s * 10 * t ≤ s * (t * 10 ^ k * 10) :=
        calc s * 10 * t ≤ s * 10 * t * 10 ^ k := Nat.le_mul_of_pos_right _ (Nat.pow_pos (by decide))
          _ = s * (t * 10 ^ k * 10) := by ring
      have : s * 10 < 17976931348623156225 :=
        Nat.lt_of_mul_lt_mul_right ((this.trans hvalue).trans_lt hn)
      omega
  obtain ⟨x, hx⟩ := Option.isSome_iff_exists.mp hsome
  rw [hx]
  exact ⟨_, rfl⟩

/-- The limit is sharp. -/
example : (Number.ofDigits false integerLimit).toOption = none := by decide +kernel

/-- What a number is read as when it has been written: an integer beyond 64 bits is a double. -/
def Number.asRead : Number → Number
  | .integer z => (Number.ofDigits (decide (z < 0)) z.natAbs).toOption.getD (.integer z)
  | x => x

/-- An integer of 64 bits is read as it is. -/
theorem asRead_integer {z : Int} (h : -2 ^ 63 ≤ z) (h' : z < 2 ^ 64) :
    (Number.integer z).asRead = .integer z := by
  obtain ⟨-, -, hover⟩ :=
    digitsOnto_spec (Nat.toDigits 10 z.natAbs) isDigit_of_mem_toDigits 0 (by decide)
  rw [Nat.ofDigitChars_ten_toDigits] at hover
  obtain ⟨hover, hvalue⟩ := hover.resolve_right (by omega)
  simp only [Number.asRead, Number.ofDigits, finishInteger, hover, hvalue, if_pos, Except.toOption,
    Option.getD_some, Number.ofInteger, decide_eq_true_eq]
  split
  · rw [if_neg (by omega)]
    congr 1
    omega
  · congr 1
    omega

/-! ## Reading digits -/

/-- A rest that does not carry on the number in front of it. -/
def EndsNumber (rest : List Char) : Prop :=
  ∀ c ∈ rest.head?, c.isDigit = false ∧ c ≠ '.' ∧ c ≠ 'e' ∧ c ≠ 'E'

theorem endsNumber_cons {c : Char} {s : List Char} :
    EndsNumber (c :: s) ↔ c.isDigit = false ∧ c ≠ '.' ∧ c ≠ 'e' ∧ c ≠ 'E' := by
  simp [EndsNumber]

theorem yields_readFraction {negative : Bool} {s e : Nat} {rest : List Char} {x : Number}
    (hrest : EndsNumber rest) (h : finishInteger negative s e [] = .ok x) :
    Yields (readFraction negative s e rest) x rest := by
  unfold readFraction
  split
  · exact absurd rfl (endsNumber_cons.mp hrest).2.1
  · next c t _ =>
    obtain ⟨-, -, he, hE⟩ := endsNumber_cons.mp hrest
    rw [if_neg (by simp [he, hE]), finishInteger_ok h]
    rfl
  · rw [h]
    rfl

/-- The first digit of a positive number is not zero. -/
theorem toDigits_eq_cons {n : Nat} (hn : n ≠ 0) : ∃ c s, Nat.toDigits 10 n = c :: s ∧ c ≠ '0' := by
  induction n using Nat.base_induction 10 (by decide) with
  | single m hm =>
    refine ⟨m.digitChar, [], Nat.toDigits_of_lt_base hm, ?_⟩
    have : ∀ m < 10, m ≠ 0 → m.digitChar ≠ '0' := by decide
    exact this m hm hn
  | digit m k hk hm ih =>
    obtain ⟨c, s, hs, hc⟩ := ih hm.ne'
    exact ⟨c, s ++ Nat.toDigits 10 k,
      by rw [← Nat.toDigits_append_toDigits (by decide) hm hk, hs]; rfl, hc⟩

theorem takeWhile_isDigit {s rest : List Char} (hs : ∀ c ∈ s, c.isDigit = true)
    (hrest : EndsNumber rest) : (s ++ rest).takeWhile Char.isDigit = s := by
  rw [List.takeWhile_append_of_pos hs]
  cases rest with
  | nil => simp
  | cons c t => simp [(endsNumber_cons.mp hrest).1]

theorem dropWhile_isDigit {s rest : List Char} (hs : ∀ c ∈ s, c.isDigit = true)
    (hrest : EndsNumber rest) : (s ++ rest).dropWhile Char.isDigit = rest := by
  rw [List.dropWhile_append_of_pos hs]
  cases rest with
  | nil => simp
  | cons c t => simp [(endsNumber_cons.mp hrest).1]

/-- The digits of a number are read back. -/
theorem yields_readUnsigned {negative : Bool} {n : Nat} {rest : List Char} {x : Number}
    (hrest : EndsNumber rest) (hx : Number.ofDigits negative n = .ok x) :
    Yields (readUnsigned negative (Nat.toDigits 10 n ++ rest)) x rest := by
  unfold Number.ofDigits at hx
  dsimp only at hx
  by_cases hn : n = 0
  · subst hn
    rw [Nat.toDigits_zero] at hx ⊢
    have : rest.head?.any Char.isDigit = false := by
      cases rest with
      | nil => rfl
      | cons c t => simp [(endsNumber_cons.mp hrest).1]
    have h0 : finishInteger negative 0 0 [] = .ok x := hx
    obtain ⟨_, hread⟩ := (yields_readFraction hrest h0).eq
    rw [List.cons_append, List.nil_append, readUnsigned, this, hread]
    rfl
  · obtain ⟨c, s, hs, hc⟩ := toDigits_eq_cons hn
    have hdigits : ∀ d ∈ c :: s, d.isDigit = true := by rw [← hs]; exact isDigit_of_mem_toDigits
    have hd : ∀ d ∈ s, d.isDigit = true := fun d hd => hdigits d (by simp [hd])
    rw [hs] at hx ⊢
    rw [List.cons_append, readUnsigned, if_pos (hdigits c (by simp))]
    · have hafter :
        Yields (readFraction negative (digitsOnto 0 (c :: s)).1 (digitsOnto 0 (c :: s)).2
          ((s ++ rest).dropWhile Char.isDigit)) x rest := by
        rw [dropWhile_isDigit hd hrest]
        exact yields_readFraction hrest hx
      obtain ⟨_, hread⟩ := hafter.eq
      simp only [takeWhile_isDigit hd hrest, hread]
      rfl
    · exact hc

end ClarityCheck.Json
