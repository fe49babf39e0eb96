/-!
# Spans of time

A duration counts nanoseconds. Its text uses the largest unit in which it is at least one, with the
fraction without trailing zeros.
-/

namespace ClarityCheck

/-- A span of time in nanoseconds. -/
structure Duration where
  nanoseconds : Nat
  deriving DecidableEq, Repr

namespace Duration

/-- A whole number of seconds. -/
def ofSeconds (n : Nat) : Duration := ⟨n * 1000000000⟩

/-- A whole number of milliseconds. -/
def ofMilliseconds (n : Nat) : Duration := ⟨n * 1000000⟩

/-- The whole seconds of a duration. -/
def seconds (d : Duration) : Nat := d.nanoseconds / 1000000000

/-- The decimal digits of `n` padded with zeros in front to at least `width`. -/
def padded (width n : Nat) : List Char :=
  let digits := Nat.toDigits 10 n
  List.replicate (width - digits.length) '0' ++ digits

/-- The digits of a fraction behind its point, without zeros at the end. -/
def fraction (width n : Nat) : List Char :=
  ((padded width n).reverse.dropWhile (· == '0')).reverse

/-- A value of `n` parts, of which `10 ^ width` make one unit, in that unit. -/
def inUnit (width n : Nat) (unit : String) : String :=
  let whole := toString (n / Nat.pow 10 width)
  match n % Nat.pow 10 width with
  | 0 => whole ++ unit
  | rest => whole ++ "." ++ String.ofList (fraction width rest) ++ unit

/-- The text of a duration. -/
def text (d : Duration) : String :=
  let n := d.nanoseconds
  if 1000000000 ≤ n then inUnit 9 n "s"
  else if 1000000 ≤ n then inUnit 6 n "ms"
  else if 1000 ≤ n then inUnit 3 n "µs"
  else toString n ++ "ns"

end Duration

end ClarityCheck
