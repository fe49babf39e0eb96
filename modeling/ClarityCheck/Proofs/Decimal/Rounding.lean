import ClarityCheck.Decimal.Binary64
import Mathlib.Algebra.Order.Field.Power
import Mathlib.Algebra.Order.Ring.Rat
import Mathlib.Tactic.FieldSimp
import Mathlib.Tactic.Linarith
import Mathlib.Tactic.Positivity
import Mathlib.Tactic.Ring

/-!
# Rounding to doubles

The nearest double as a function of the exact quotient: a larger quotient never rounds to a smaller
double, and a double is finite exactly when it lies below `2 ^ 1024`. So whether a product of two
rounded numbers overflows is settled by the largest of them.

* `toRat_ofRatio_le`: rounding is monotone
* `isFinite_ofRatio_iff`: what is too large for a double
* `isFinite_mul_of_le`: a product is finite when the product of larger factors is
-/

namespace ClarityCheck.Decimal

variable {a b c d n : Nat}

/-! ## Rounding a quotient to a natural number -/

/-- A quotient rounds to `n` or less when it lies below the middle between `n` and `n + 1`, or in it
and `n` is even. -/
theorem roundDiv_le_iff (hb : 0 < b) :
    roundDiv a b ≤ n ↔ 2 * a < (2 * n + 1) * b ∨ 2 * a = (2 * n + 1) * b ∧ n % 2 = 0 := by
  have hdiv := Nat.div_add_mod a b
  have hmod := Nat.mod_lt a hb
  unfold roundDiv
  generalize a / b = q at *
  generalize a % b = r at *
  subst hdiv
  -- The remainder only matters where the whole part of the quotient is `n`.
  rcases Nat.lt_trichotomy q n with h | rfl | h
  · obtain ⟨k, rfl⟩ := Nat.exists_eq_add_of_lt h
    have : (2 * (q + k + 1) + 1) * b = 2 * (b * q) + 2 * (k * b) + 3 * b := by ring
    grind
  · have : (2 * q + 1) * b = 2 * (b * q) + b := by ring
    grind
  · obtain ⟨k, rfl⟩ := Nat.exists_eq_add_of_lt h
    have : 2 * (b * (n + k + 1) + r) = (2 * n + 1) * b + b + 2 * (k * b) + 2 * r := by ring
    grind

/-- A larger quotient rounds to no smaller number. -/
theorem roundDiv_le_roundDiv (hb : 0 < b) (hd : 0 < d) (h : a * d ≤ c * b) :
    roundDiv a b ≤ roundDiv c d := by
  rw [roundDiv_le_iff hb]
  generalize hn : roundDiv c d = n
  rcases (roundDiv_le_iff hd).mp hn.le with hc | ⟨hc, hn⟩
  · left
    have : 2 * a * d < (2 * n + 1) * b * d := by nlinarith
    exact Nat.lt_of_mul_lt_mul_right this
  · have : 2 * a * d ≤ (2 * n + 1) * b * d := by nlinarith
    have := Nat.le_of_mul_le_mul_right this hd
    omega

theorem roundDiv_mul_left (hb : 0 < b) : roundDiv (n * b) b = n := by
  have : n * b / b = n := Nat.mul_div_cancel n hb
  simp [roundDiv, this, hb]

theorem le_roundDiv (hb : 0 < b) (h : n * b ≤ a) : n ≤ roundDiv a b := by
  have := roundDiv_le_roundDiv hb hb (a := n * b) (c := a) (by gcongr)
  rwa [roundDiv_mul_left hb] at this

theorem roundDiv_le (hb : 0 < b) (h : a ≤ n * b) : roundDiv a b ≤ n := by
  have := roundDiv_le_roundDiv hb hb (a := a) (c := n * b) (by gcongr)
  rwa [roundDiv_mul_left hb] at this

namespace Binary64

/-! ## Doubles as rational numbers -/

/-- A double as a rational number. -/
def toRat (x : Binary64) : ℚ := x.mantissa * 2 ^ x.exponent

theorem toRat_nonneg (x : Binary64) : 0 ≤ x.toRat := by
  unfold toRat
  positivity

theorem zpow_toNat (q : ℤ) : ((2 ^ q.toNat : Nat) : ℚ) / ((2 ^ (-q).toNat : Nat) : ℚ) = 2 ^ q := by
  rcases le_total 0 q with h | h
  · obtain ⟨k, rfl⟩ := Int.eq_ofNat_of_zero_le h
    simp
  · obtain ⟨k, hk⟩ := Int.eq_ofNat_of_zero_le (Int.neg_nonneg_of_nonpos h)
    obtain rfl : q = -k := by omega
    simp

theorem toRat_eq_div (x : Binary64) : x.toRat = (x.numerator : ℚ) / x.denominator := by
  have := zpow_toNat x.exponent
  simp only [toRat, numerator, denominator, ← this, Nat.cast_mul, Nat.pow_eq]
  ring

/-- The quotient behind a shift by a power of two. -/
theorem shifted_div (a b : Nat) (q : ℤ) :
    ((a * Nat.pow 2 (-q).toNat : Nat) : ℚ) / ((b * Nat.pow 2 q.toNat : Nat) : ℚ)
      = (a : ℚ) / b / 2 ^ q := by
  rw [← zpow_toNat q]
  simp only [Nat.cast_mul, Nat.pow_eq]
  field_simp

/-! ## The leading digit -/

/-- A positive quotient lies between the power of two of its leading digit and the next one. -/
theorem leadingExponent_spec (ha : a ≠ 0) (hb : b ≠ 0) :
    (2 : ℚ) ^ leadingExponent a b ≤ (a : ℚ) / b ∧ (a : ℚ) / b < 2 ^ (leadingExponent a b + 1) := by
  have hb0 : (0 : ℚ) < b := by exact_mod_cast Nat.pos_of_ne_zero hb
  have ha1 : (2 : ℚ) ^ (a.log2 : ℤ) ≤ a := by exact_mod_cast Nat.log2_self_le ha
  have ha2 : (a : ℚ) < 2 ^ ((a.log2 : ℤ) + 1) := by exact_mod_cast Nat.lt_log2_self
  have hb1 : (2 : ℚ) ^ (b.log2 : ℤ) ≤ b := by exact_mod_cast Nat.log2_self_le hb
  have hb2 : (b : ℚ) < 2 ^ ((b.log2 : ℤ) + 1) := by exact_mod_cast Nat.lt_log2_self
  have lower : (2 : ℚ) ^ ((a.log2 : ℤ) - b.log2 - 1) ≤ (a : ℚ) / b := by
    rw [le_div_iff₀ hb0]
    calc (2 : ℚ) ^ ((a.log2 : ℤ) - b.log2 - 1) * b
        ≤ 2 ^ ((a.log2 : ℤ) - b.log2 - 1) * 2 ^ ((b.log2 : ℤ) + 1) := by gcongr
      _ = 2 ^ (a.log2 : ℤ) := by rw [← zpow_add₀ two_ne_zero]; congr 1; omega
      _ ≤ a := ha1
  have upper : (a : ℚ) / b < 2 ^ ((a.log2 : ℤ) - b.log2 + 1) := by
    rw [div_lt_iff₀ hb0]
    calc (a : ℚ) < 2 ^ ((a.log2 : ℤ) + 1) := ha2
      _ = 2 ^ ((a.log2 : ℤ) - b.log2 + 1) * 2 ^ (b.log2 : ℤ) := by
        rw [← zpow_add₀ two_ne_zero]; congr 1; omega
      _ ≤ 2 ^ ((a.log2 : ℤ) - b.log2 + 1) * b := by gcongr
  unfold leadingExponent
  generalize (a.log2 : ℤ) - b.log2 = e at *
  have hpos : (0 : ℚ) < ((b * Nat.pow 2 e.toNat : Nat) : ℚ) := by
    exact_mod_cast Nat.mul_pos (Nat.pos_of_ne_zero hb) (Nat.pow_pos two_pos)
  -- The test compares the quotient with the power of two that the lengths suggest.
  have test : a * Nat.pow 2 (-e).toNat < b * Nat.pow 2 e.toNat ↔ (a : ℚ) / b < 2 ^ e := by
    rw [← Nat.cast_lt (α := ℚ), ← div_lt_one hpos, shifted_div, div_lt_one (by positivity)]
  dsimp only
  split
  · next h => exact ⟨lower, by simpa using test.mp h⟩
  · next h => exact ⟨not_lt.mp (mt test.mpr h), upper⟩

/-! ## Rounding is monotone -/

/-- The exponent of the last digit that rounding keeps. -/
def lastExponent (num den : Nat) : Int := max (leadingExponent num den - 52) minExponent

/-- The digits that rounding keeps. -/
def keptDigits (num den : Nat) : Nat :=
  let q := lastExponent num den
  roundDiv (num * Nat.pow 2 (-q).toNat) (den * Nat.pow 2 q.toNat)

theorem ofRatio_eq (ha : a ≠ 0) :
    ofRatio a b = if keptDigits a b = Nat.pow 2 53
      then ⟨Nat.pow 2 52, lastExponent a b + 1⟩ else ⟨keptDigits a b, lastExponent a b⟩ := by
  unfold ofRatio
  rw [if_neg ha]
  rfl

/-- A significand that is rounded up to one digit more is written with the next exponent. -/
theorem toRat_ofRatio (ha : a ≠ 0) :
    (ofRatio a b).toRat = keptDigits a b * 2 ^ lastExponent a b := by
  rw [ofRatio_eq ha]
  split
  · next hm =>
    rw [toRat, hm, zpow_add_one₀ (two_ne_zero : (2 : ℚ) ≠ 0)]
    simp only [Nat.pow_eq, Nat.cast_pow]
    ring
  · rfl

/-- The kept digits are the quotient in units of the last one, rounded. -/
theorem keptDigits_le_keptDigits (hb : b ≠ 0) (hd : d ≠ 0)
    (hq : lastExponent a b = lastExponent c d) (h : (a : ℚ) / b ≤ (c : ℚ) / d) :
    keptDigits a b ≤ keptDigits c d := by
  unfold keptDigits
  rw [hq]
  generalize lastExponent c d = q
  have hb' : 0 < b * Nat.pow 2 q.toNat := Nat.mul_pos (Nat.pos_of_ne_zero hb) (Nat.pow_pos two_pos)
  have hd' : 0 < d * Nat.pow 2 q.toNat := Nat.mul_pos (Nat.pos_of_ne_zero hd) (Nat.pow_pos two_pos)
  refine roundDiv_le_roundDiv hb' hd' ?_
  have : (a : ℚ) / b / 2 ^ q ≤ (c : ℚ) / d / 2 ^ q := by gcongr
  rw [← shifted_div, ← shifted_div, div_le_div_iff₀ (by exact_mod_cast hb') (by exact_mod_cast hd')]
    at this
  exact_mod_cast this

/-- At most 53 binary digits are kept, or the next power of two. -/
theorem keptDigits_le (ha : a ≠ 0) (hb : b ≠ 0) : keptDigits a b ≤ 2 ^ 53 := by
  unfold keptDigits
  have hlast : leadingExponent a b + 1 ≤ lastExponent a b + 53 := by
    have := le_max_left (leadingExponent a b - 52) minExponent
    unfold lastExponent
    omega
  generalize lastExponent a b = q at *
  have hb' : 0 < b * Nat.pow 2 q.toNat := Nat.mul_pos (Nat.pos_of_ne_zero hb) (Nat.pow_pos two_pos)
  refine roundDiv_le hb' ?_
  have : (a : ℚ) / b / 2 ^ q ≤ 2 ^ 53 := by
    rw [div_le_iff₀ (by positivity)]
    calc (a : ℚ) / b ≤ 2 ^ (leadingExponent a b + 1) := (leadingExponent_spec ha hb).2.le
      _ ≤ 2 ^ (q + 53) := zpow_le_zpow_right₀ one_le_two hlast
      _ = 2 ^ 53 * 2 ^ q := by rw [zpow_add₀ two_ne_zero, mul_comm]; rfl
  rw [← shifted_div, div_le_iff₀ (by exact_mod_cast hb')] at this
  exact_mod_cast this

/-- Above the smallest exponent all 53 binary digits are kept. -/
theorem le_keptDigits (ha : a ≠ 0) (hb : b ≠ 0) (hq : minExponent < lastExponent a b) :
    2 ^ 52 ≤ keptDigits a b := by
  unfold keptDigits
  have hlast : lastExponent a b + 52 = leadingExponent a b := by
    unfold lastExponent at *
    omega
  generalize lastExponent a b = q at *
  have hb' : 0 < b * Nat.pow 2 q.toNat := Nat.mul_pos (Nat.pos_of_ne_zero hb) (Nat.pow_pos two_pos)
  refine le_roundDiv hb' ?_
  have : (2 : ℚ) ^ 52 ≤ (a : ℚ) / b / 2 ^ q := by
    rw [le_div_iff₀ (by positivity)]
    calc (2 : ℚ) ^ 52 * 2 ^ q = 2 ^ (q + 52) := by rw [zpow_add₀ two_ne_zero, mul_comm]; rfl
      _ = 2 ^ leadingExponent a b := by rw [hlast]
      _ ≤ (a : ℚ) / b := (leadingExponent_spec ha hb).1
  rw [← shifted_div, le_div_iff₀ (by exact_mod_cast hb')] at this
  exact_mod_cast this

theorem lastExponent_le_lastExponent (ha : a ≠ 0) (hb : b ≠ 0) (hc : c ≠ 0) (hd : d ≠ 0)
    (h : (a : ℚ) / b ≤ (c : ℚ) / d) : lastExponent a b ≤ lastExponent c d := by
  have : (2 : ℚ) ^ leadingExponent a b < 2 ^ (leadingExponent c d + 1) :=
    (leadingExponent_spec ha hb).1.trans_lt (h.trans_lt (leadingExponent_spec hc hd).2)
  have := (zpow_lt_zpow_iff_right₀ one_lt_two).mp this
  unfold lastExponent
  omega

/-- Rounding is monotone. -/
theorem toRat_ofRatio_le (hb : b ≠ 0) (hd : d ≠ 0) (h : (a : ℚ) / b ≤ (c : ℚ) / d) :
    (ofRatio a b).toRat ≤ (ofRatio c d).toRat := by
  by_cases ha : a = 0
  · simpa [ha, ofRatio, toRat] using toRat_nonneg (ofRatio c d)
  have hc : c ≠ 0 := by
    rintro rfl
    have : (0 : ℚ) < (a : ℚ) / b := by positivity
    simp only [Nat.cast_zero, zero_div] at h
    linarith
  rw [toRat_ofRatio ha, toRat_ofRatio hc]
  rcases (lastExponent_le_lastExponent ha hb hc hd h).eq_or_lt with hq | hq
  · have : (keptDigits a b : ℚ) ≤ keptDigits c d :=
      Nat.cast_le.mpr (keptDigits_le_keptDigits hb hd hq h)
    rw [hq]
    gcongr
  · have hmin : minExponent < lastExponent c d := (le_max_right _ _).trans_lt hq
    -- The larger quotient keeps more digits than the smaller one can have.
    calc (keptDigits a b : ℚ) * 2 ^ lastExponent a b
        ≤ 2 ^ 53 * 2 ^ lastExponent a b := by gcongr; exact_mod_cast keptDigits_le ha hb
      _ = 2 ^ 52 * 2 ^ (lastExponent a b + 1) := by rw [zpow_add_one₀ two_ne_zero]; ring
      _ ≤ 2 ^ 52 * 2 ^ lastExponent c d := by
        gcongr
        · exact one_le_two
        · exact hq
      _ ≤ keptDigits c d * 2 ^ lastExponent c d := by
        gcongr; exact_mod_cast le_keptDigits hc hd hmin

/-! ## What is too large -/

theorem isFinite_iff (x : Binary64) : x.isFinite = true ↔ x.exponent ≤ 971 := decide_eq_true_iff

/-- A rounded quotient is finite exactly when it lies below `2 ^ 1024`. -/
theorem isFinite_ofRatio_iff (hb : b ≠ 0) :
    (ofRatio a b).isFinite = true ↔ (ofRatio a b).toRat < 2 ^ 1024 := by
  by_cases ha : a = 0
  · subst ha
    simp [ofRatio, isFinite, toRat, minExponent, maxExponent]
  have hle := keptDigits_le ha hb
  have hge := le_keptDigits ha hb
  rw [toRat_ofRatio ha, ofRatio_eq ha]
  generalize keptDigits a b = m at *
  generalize lastExponent a b = q at *
  -- The bound is counted in units of the last digit.
  have hbound : (2 : ℚ) ^ 1024 = 2 ^ (1024 - q) * 2 ^ q := by
    rw [← zpow_add₀ two_ne_zero]
    simp only [sub_add_cancel]
    rfl
  rw [hbound, mul_lt_mul_iff_left₀ (by positivity)]
  split
  · next hm =>
    have : (m : ℚ) = 2 ^ (53 : ℤ) := by rw [hm]; norm_num
    rw [this, zpow_lt_zpow_iff_right₀ one_lt_two]
    rw [isFinite_iff]
    simp only
    omega
  · next hm =>
    rw [isFinite_iff]
    simp only
    have hlt : (m : ℚ) < 2 ^ (53 : ℤ) := by exact_mod_cast lt_of_le_of_ne hle hm
    refine ⟨fun h => hlt.trans_le (zpow_le_zpow_right₀ one_le_two (by omega)), fun h => ?_⟩
    by_contra hq
    have h52 : (2 : ℚ) ^ (52 : ℤ) ≤ m := by
      exact_mod_cast hge (by simp only [minExponent]; omega)
    have := (zpow_lt_zpow_iff_right₀ one_lt_two).mp (h52.trans_lt h)
    omega

theorem numerator_div_denominator_mul (x y : Binary64) :
    ((x.numerator * y.numerator : Nat) : ℚ) / ((x.denominator * y.denominator : Nat) : ℚ)
      = x.toRat * y.toRat := by
  rw [toRat_eq_div, toRat_eq_div, Nat.cast_mul, Nat.cast_mul, mul_div_mul_comm]

theorem denominator_ne_zero (x : Binary64) : x.denominator ≠ 0 := (Nat.pow_pos two_pos).ne'

/-- A product is finite when the product of larger factors is. -/
theorem isFinite_mul_of_le {x x' y y' : Binary64} (hx : x.toRat ≤ x'.toRat)
    (hy : y.toRat ≤ y'.toRat) (h : (x'.mul y').isFinite = true) : (x.mul y).isFinite = true := by
  have hden : ∀ x y : Binary64, x.denominator * y.denominator ≠ 0 := fun x y =>
    Nat.mul_ne_zero (denominator_ne_zero x) (denominator_ne_zero y)
  rw [mul, isFinite_ofRatio_iff (hden _ _)] at *
  refine lt_of_le_of_lt (toRat_ofRatio_le (hden _ _) (hden _ _) ?_) h
  rw [numerator_div_denominator_mul, numerator_div_denominator_mul]
  exact mul_le_mul hx hy (toRat_nonneg y) (toRat_nonneg x')

/-- Natural numbers round in their order. -/
theorem toRat_ofRatio_one_le (h : a ≤ b) : (ofRatio a 1).toRat ≤ (ofRatio b 1).toRat :=
  toRat_ofRatio_le one_ne_zero one_ne_zero (by gcongr)

/-- A decimal with a smaller significand and a smaller power of ten than a finite one is finite. -/
theorem isSome_ofRounded?_of_le {s t e f : Nat} (hs : s ≤ t) (he : e ≤ f) (hf : f ≤ 308)
    (h : ((ofRatio t 1).mul (tenPow f)).isFinite = true) : (ofRounded? s e).isSome = true := by
  have hfin : ((ofRatio s 1).mul (tenPow e)).isFinite = true :=
    isFinite_mul_of_le (toRat_ofRatio_one_le hs)
      (toRat_ofRatio_one_le (Nat.pow_le_pow_right (by decide) he)) h
  unfold ofRounded?
  by_cases hm : (ofRatio s 1).mantissa = 0
  · simp [hm]
  · simp [hm, hfin, show ¬308 < e by omega]

end Binary64

end ClarityCheck.Decimal
