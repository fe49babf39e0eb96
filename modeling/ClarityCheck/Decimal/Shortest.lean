import ClarityCheck.Decimal.Binary64

/-!
# The shortest decimal of a double

Of all decimals that are nearer to a double than to any other, `shortest` gives one with the fewest
digits, and of those the nearest. `text` lays it out: positional from `1e-05` below `1e+16`, with an
exponent elsewhere, which has a sign and at least two digits. There is always a point or an
exponent.
-/

namespace ClarityCheck.Decimal

/-- The exponent of the leading decimal digit of a positive quotient. -/
def leadingDecimal (num den : Nat) : Int :=
  let d : Int := (Nat.toDigits 10 num).length - (Nat.toDigits 10 den).length
  if den * Nat.pow 10 d.toNat ≤ num * Nat.pow 10 (-d).toNat then d else d - 1

/-- The decimal `n · 10 ^ k` lies where a double is the nearest one. Everything is measured in
quarters of the unit in the last place; the gap below a power of two is half as wide. -/
def readsBack (x : Binary64) (n : Nat) (k : Int) : Bool :=
  let unitNum := Nat.pow 2 x.exponent.toNat
  let unitDen := 4 * Nat.pow 2 (-x.exponent).toNat
  let scaled := n * Nat.pow 10 k.toNat * unitDen
  let quarter := unitNum * Nat.pow 10 (-k).toNat
  let down := if x.mantissa = Nat.pow 2 52 ∧ Binary64.minExponent < x.exponent then 1 else 2
  let low := (4 * x.mantissa - down) * quarter
  let high := (4 * x.mantissa + 2) * quarter
  if x.mantissa % 2 = 0 then low ≤ scaled && scaled ≤ high else low < scaled && scaled < high

/-- The decimal with a given number of digits next to a positive double, if it reads back. -/
def candidate? (x : Binary64) (digits : Nat) : Option (Nat × Int) :=
  let num := x.numerator
  let den := x.denominator
  let k := leadingDecimal num den - (digits : Int) + 1
  let n := roundDiv (num * Nat.pow 10 (-k).toNat) (den * Nat.pow 10 k.toNat)
  if readsBack x n k then some (n, k)
  else
    let floor := num * Nat.pow 10 (-k).toNat / (den * Nat.pow 10 k.toNat)
    if readsBack x floor k then some (floor, k)
    else if readsBack x (floor + 1) k then some (floor + 1, k)
    else none

/-- The shortest decimal of a positive double. Seventeen digits always read back. -/
def shortest (x : Binary64) : Nat × Int :=
  ((List.range 17).findSome? fun i => candidate? x (i + 1)).getD (x.numerator, 0)

/-- Moves zeros at the end of a number into its exponent. -/
def dropZeros (fuel n : Nat) (k : Int) : Nat × Int :=
  match fuel with
  | 0 => (n, k)
  | fuel + 1 => if n % 10 = 0 ∧ n ≠ 0 then dropZeros fuel (n / 10) (k + 1) else (n, k)

/-- An exponent as text. -/
def exponentText (e : Int) : String :=
  let digits := toString e.natAbs
  "e" ++ (if e < 0 then "-" else "+") ++ (if digits.length < 2 then "0" else "") ++ digits

/-- A decimal as text. -/
def layout (n : Nat) (k : Int) : String :=
  let digits := Nat.toDigits 10 n
  let point := (digits.length : Int) + k
  if 0 ≤ k ∧ point ≤ 16 then String.ofList (digits ++ List.replicate k.toNat '0') ++ ".0"
  else if 0 < point ∧ point ≤ 16 then
    String.ofList (digits.take point.toNat) ++ "." ++ String.ofList (digits.drop point.toNat)
  else if -5 < point ∧ point ≤ 0 then
    "0." ++ String.ofList (List.replicate (-point).toNat '0' ++ digits)
  else
    let e := exponentText (point - 1)
    match digits with
    | [d] => String.ofList [d] ++ e
    | d :: ds => String.ofList [d] ++ "." ++ String.ofList ds ++ e
    | [] => e

/-- The text of a double. -/
def text (negative : Bool) (x : Binary64) : String :=
  (if negative then "-" else "")
    ++ if x.mantissa = 0 then "0.0"
      else
        let d := shortest x
        let d := dropZeros 400 d.1 d.2
        layout d.1 d.2

end ClarityCheck.Decimal
