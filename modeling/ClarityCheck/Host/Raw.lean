import ClarityCheck.Path

/-!
# Bytes that read as text

Scripts, arguments and streams are bytes. A byte stands here as the character of its number, so that
ASCII reads as it is written and nothing else is changed.
-/

namespace ClarityCheck.Host

/-- Bytes as characters, each with the number of its byte. -/
abbrev Raw := List Char

namespace Raw

/-- Bytes as characters. -/
def ofBytes (bs : Bytes) : Raw := bs.map fun b => Char.ofNat b.toNat

/-- The bytes that characters stand for. -/
def bytes (s : Raw) : Bytes := s.map fun c => UInt8.ofNat c.toNat

/-- The path that characters stand for. -/
def path (s : Raw) : Path := ⟨bytes s⟩

/-- A path as characters. -/
def ofPath (p : Path) : Raw := ofBytes p.bytes

/-- A text in UTF-8. -/
def ofString (s : String) : Raw := ofBytes (Text.Utf8.encode s.toList)

/-- The number that digits write, if they are all digits and there is one. -/
def nat? (s : Raw) : Option Nat :=
  if s = [] ∨ !s.all Char.isDigit then none
  else some (s.foldl (fun n c => n * 10 + (c.toNat - 0x30)) 0)

/-- The number that digits with an optional sign write. -/
def int? : Raw → Option Int
  | '-' :: s => (nat? s).map fun n => -(n : Int)
  | '+' :: s => (nat? s).map Int.ofNat
  | s => (nat? s).map Int.ofNat

/-- The value of a digit below eight. -/
def octal? (c : Char) : Option Nat :=
  if '0' ≤ c ∧ c ≤ '7' then some (c.toNat - 0x30) else none

/-- Reads a number in base eight of at most so many digits. -/
def cutOctal (most : Nat) (s : Raw) : Nat × Raw :=
  let digits := (s.take most).takeWhile fun c => (octal? c).isSome
  (digits.foldl (fun n c => n * 8 + (octal? c).getD 0) 0, s.drop digits.length)

/-! ## Numbers in several bases -/

/-- The value of a digit in any base up to sixteen. -/
def digit? (c : Char) : Option Nat :=
  if c.isDigit then some (c.toNat - 0x30)
  else if 'a' ≤ c ∧ c ≤ 'f' then some (c.toNat - 0x61 + 10)
  else if 'A' ≤ c ∧ c ≤ 'F' then some (c.toNat - 0x41 + 10)
  else none

/-- Cuts the digits of a base from the front of a text. -/
def cutDigits (base : Nat) (s : Raw) : Raw × Raw :=
  s.span fun c => (digit? c).any (· < base)

/-- The number that digits write. -/
def valueOf (base : Nat) (digits : Raw) : Nat :=
  digits.foldl (fun n c => n * base + (digit? c).getD 0) 0

/-- Cuts a number without a sign. A zero in front makes its base eight, a further `x` sixteen. -/
def cutNatural? (s : Raw) : Option (Nat × Raw) :=
  let hexadecimal := match s with
    | '0' :: x :: r =>
      if x = 'x' ∨ x = 'X' then some (cutDigits 16 r) else none
    | _ => none
  match hexadecimal with
  | some (c :: digits, rest) => some (valueOf 16 (c :: digits), rest)
  | _ =>
    let base := if s.head? = some '0' then 8 else 10
    match cutDigits base s with
    | ([], _) => none
    | (digits, rest) => some (valueOf base digits, rest)

/-- A character that does not count in front of a number. -/
def isSpace (c : Char) : Bool := " \t\n\x0b\x0c\r".toList.contains c

/-- Cuts a number in front of which blanks and a sign may stand. -/
def cutWhole? (s : Raw) : Option (Int × Raw) :=
  let s := s.dropWhile isSpace
  let (negative, s) := match s with
    | '-' :: r => (true, r)
    | '+' :: r => (false, r)
    | r => (false, r)
  (cutNatural? s).map fun p => (if negative then -(p.1 : Int) else p.1, p.2)

end Raw

end ClarityCheck.Host
