import ClarityCheck.Text.Cut

/-!
# IPv4 addresses

A host whose last part is a number is an IPv4 address. It may have fewer than four parts, the last
of which then fills what is missing, and its numbers may be octal or hexadecimal.
-/

namespace ClarityCheck.Url.Ipv4

open ClarityCheck.Text

/-- The base of a number and its digits behind the mark of the base. -/
def base (s : List Char) : Nat × List Char :=
  match s with
  | '0' :: 'x' :: r => (16, r)
  | '0' :: 'X' :: r => (16, r)
  | '0' :: c :: r => (8, c :: r)
  | s => (10, s)

/-- The value of a digit in a base. -/
def digit? (base : Nat) (c : Char) : Option Nat :=
  let n :=
    if '0' ≤ c ∧ c ≤ '9' then c.toNat - 0x30
    else if 'a' ≤ c ∧ c ≤ 'f' then c.toNat - 0x57
    else if 'A' ≤ c ∧ c ≤ 'F' then c.toNat - 0x37
    else 16
  if n < base then some n else none

/-- The value of digits in a base. -/
def digitsValue? (base : Nat) (s : List Char) : Option Nat :=
  s.foldlM (fun n c => (digit? base c).map (n * base + ·)) 0

/-- The value of a part of an address. Without digits behind the mark of its base it is zero. -/
def number? (s : List Char) : Option Nat :=
  if s.isEmpty then none
  else
    let b := base s
    digitsValue? b.1 b.2

/-- The parts of a host; an empty one at the end does not count. -/
def parts (host : List Char) : List (List Char) :=
  let ps := splitOn '.' host
  if 1 < ps.length ∧ ps.getLast? = some [] then ps.dropLast else ps

/-- A host that can only be an IPv4 address: its last part is a number. -/
def endsInNumber (host : List Char) : Bool :=
  match (parts host).getLast? with
  | some last => (!last.isEmpty && last.all Char.isDigit) || (number? last).isSome
  | none => false

/-- The number that an address stands for. -/
def ofHost? (host : List Char) : Option Nat :=
  let ps := parts host
  if 4 < ps.length then none
  else
    match ps.mapM number? with
    | none => none
    | some ns =>
      match ns.getLast? with
      | none => none
      | some last =>
        let front := ns.dropLast
        if Nat.pow 256 (4 - front.length) ≤ last ∨ front.any (255 < ·) then none
        else some (front.zipIdx.foldr (fun p n => p.1 * Nat.pow 256 (3 - p.2) + n) last)

/-- An address as four numbers with dots. -/
def render (n : Nat) : List Char :=
  ['.'].intercalate
    ([n / 0x100_0000, n / 0x1_0000 % 256, n / 256 % 256, n % 256].map (Nat.toDigits 10))

end ClarityCheck.Url.Ipv4
