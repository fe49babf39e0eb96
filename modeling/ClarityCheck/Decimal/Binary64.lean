/-!
# Doubles as exact numbers

A non-negative double is `mantissa · 2 ^ exponent`. `ofRatio` rounds a quotient of natural numbers
to the nearest double, a tie to the even mantissa, with nothing but natural numbers.
-/

namespace ClarityCheck.Decimal

/-- A quotient rounded to the nearest natural number, a tie to the even one. -/
def roundDiv (num den : Nat) : Nat :=
  let q := num / den
  let r := num % den
  if 2 * r < den then q
  else if den < 2 * r then q + 1
  else if q % 2 = 0 then q else q + 1

/-- A non-negative double. -/
structure Binary64 where
  mantissa : Nat
  exponent : Int
  deriving DecidableEq, Repr

namespace Binary64

/-- The smallest exponent of a double. -/
def minExponent : Int := -1074

/-- The exponent of the leading binary digit of a positive quotient. -/
def leadingExponent (num den : Nat) : Int :=
  let e : Int := (Nat.log2 num : Int) - (Nat.log2 den : Int)
  if num * Nat.pow 2 (-e).toNat < den * Nat.pow 2 e.toNat then e - 1 else e

/-- The double nearest to a quotient. -/
def ofRatio (num den : Nat) : Binary64 :=
  if num = 0 then ⟨0, minExponent⟩
  else
    let q := max (leadingExponent num den - 52) minExponent
    let m := roundDiv (num * Nat.pow 2 (-q).toNat) (den * Nat.pow 2 q.toNat)
    if m = Nat.pow 2 53 then ⟨Nat.pow 2 52, q + 1⟩ else ⟨m, q⟩

/-- The numerator of a double as a quotient. -/
def numerator (x : Binary64) : Nat := x.mantissa * Nat.pow 2 x.exponent.toNat

/-- The denominator of a double as a quotient. -/
def denominator (x : Binary64) : Nat := Nat.pow 2 (-x.exponent).toNat

/-- The double nearest to a product. -/
def mul (x y : Binary64) : Binary64 :=
  ofRatio (x.numerator * y.numerator) (x.denominator * y.denominator)

/-- The double nearest to a quotient of doubles. -/
def div (x y : Binary64) : Binary64 :=
  ofRatio (x.numerator * y.denominator) (x.denominator * y.numerator)

/-- The double nearest to a power of ten. -/
def tenPow (n : Nat) : Binary64 := ofRatio (Nat.pow 10 n) 1

/-- The largest exponent of a finite double. -/
def maxExponent : Int := 971

/-- The double is not too large for a finite one. -/
def isFinite (x : Binary64) : Bool := x.exponent ≤ maxExponent

/-- The double of a decimal whose significand and power of ten are rounded one by one, as is what
they give together. There is none when it is too large. -/
def ofRounded? (significand : Nat) (exponent : Int) : Option Binary64 :=
  let x := ofRatio significand 1
  if x.mantissa = 0 then some x
  else if 0 ≤ exponent then
    if 308 < exponent then none
    else
      let y := x.mul (tenPow exponent.toNat)
      if y.isFinite then some y else none
  else if -308 ≤ exponent then some (x.div (tenPow (-exponent).toNat))
  else some ((x.div (tenPow 308)).div (tenPow (min (-exponent - 308).toNat 308)))

end Binary64

/-- The number of decimal digits in front of the point of a decimal. -/
def leadingDigits (significand : Nat) (exponent : Int) : Int :=
  (Nat.toDigits 10 significand).length + exponent

/-- A decimal is too large for a double: it rounds to `2 ^ 1024` or more. -/
def exceedsDouble (significand : Nat) (exponent : Int) : Bool :=
  if significand = 0 then false
  else if leadingDigits significand exponent ≤ 308 then false
  else if 310 ≤ leadingDigits significand exponent then true
  else
    let bound := Nat.pow 2 1024 - Nat.pow 2 970
    if 0 ≤ exponent then bound ≤ significand * Nat.pow 10 exponent.toNat
    else bound * Nat.pow 10 (-exponent).toNat ≤ significand

/-- The double nearest to a decimal that is not too large for one. -/
def nearest (significand : Nat) (exponent : Int) : Binary64 :=
  if leadingDigits significand exponent < -330 then .ofRatio 0 1
  else .ofRatio (significand * Nat.pow 10 exponent.toNat) (Nat.pow 10 (-exponent).toNat)

end ClarityCheck.Decimal
