import ClarityCheck.Decimal.Binary64
import ClarityCheck.Toml.Moment

/-!
# Numbers of TOML

Integers in four bases, and decimals. An underscore may stand between two digits. Whether a number
is too large is asked only when its value is wanted, since a document is read to its end before.
-/

namespace ClarityCheck.Toml

/-- The bases of integers. -/
inductive Base where
  | two
  | eight
  | ten
  | sixteen
  deriving DecidableEq, Repr

namespace Base

/-- The number of digits of a base. -/
def size : Base → Nat
  | .two => 2
  | .eight => 8
  | .ten => 10
  | .sixteen => 16

/-- What is wrong with a number in a base. -/
def faultText : Base → String
  | .two => "invalid binary number"
  | .eight => "invalid octal number"
  | .ten => "invalid integer number"
  | .sixteen => "invalid hexadecimal number"

/-- The base that a letter behind a zero stands for. -/
def ofLetter? (c : Char) : Option Base :=
  match c with
  | 'b' | 'B' => some .two
  | 'o' | 'O' => some .eight
  | 'd' | 'D' => some .ten
  | 'x' | 'X' => some .sixteen
  | _ => none

end Base

namespace Word

/-- The value of a hexadecimal digit of a base. -/
def digitValue? (base : Base) (c : Char) : Option Nat := (hexValue? c).filter (· < base.size)

/-- The digits of a number without the underscores between them. -/
def dropUnderscores (s : List Char) : List Char := s.filter (· ≠ '_')

/-! ## Underscores -/

/-- A fault that marks one character of a word. -/
def stray (w : Word) (index : Nat) : Fault :=
  ⟨Fault.expecting "\x60_\x60 may only go between digits" [], w.start + index, w.start + index + 1⟩

/-- The first underscore that is not between two digits, in what stands between underscores and has
`start` characters of a word before it, as the number of characters before the underscore. -/
def strayBeside? (isDigit : Char → Bool) (length : Nat) : Nat → List (List Char) → Option Nat
  | _, [] => none
  | start, part :: parts =>
    let stop := start + part.length
    if 0 < start ∧ part.head?.any (!isDigit ·) then some (start - 1)
    else if 1 < part.length ∧ stop < length ∧ part.getLast?.any (!isDigit ·) then some stop
    else if part = [] ∧ 0 < start ∧ start < length then some start
    else strayBeside? isDigit length (stop + 1) parts

/-- The fault of an underscore in a number that ends the word. -/
def underscoreFault? (w : Word) (isDigit : Char → Bool) (s : List Char) : Option Fault :=
  if !s.contains '_' then none
  else if s.head? = some '_' then some (w.stray 0)
  else if s.getLast? = some '_' then some (w.stray (w.chars.length - 1))
  else (strayBeside? isDigit w.chars.length (w.chars.length - s.length) (Text.splitOn '_' s)).map
    w.stray

/-! ## Integers -/

/-- The value of digits of a base. -/
def natOf? (base : Base) (ds : List Char) : Option Nat :=
  if ds = [] ∨ ds.any (fun c => (digitValue? base c).isNone) then none
  else some (ds.foldl (fun n c => n * base.size + (hexValue? c).getD 0) 0)

/-- The value of an integer with an optional sign. -/
def intOf? (base : Base) (s : List Char) : Option Int :=
  match dropUnderscores s with
  | '+' :: ds => (natOf? base ds).map Int.ofNat
  | '-' :: ds => (natOf? base ds).map (-Int.ofNat ·)
  | ds => (natOf? base ds).map Int.ofNat

/-- The faults of a word that starts with a zero and the letter of a base, behind which `s` stands.
-/
def baseFault? (w : Word) (signed : Bool) (letter : Char) (base : Base) (s : List Char) :
    Option Fault :=
  let at_ (rest : List Char) : Nat := w.stop - rest.length
  if signed then some ⟨Fault.expecting "integers with a radix cannot be signed" [], w.start,
    w.start + 1⟩
  else if base = .ten then some ⟨Fault.expecting "redundant integer number prefix" [], w.start,
    w.start + 2⟩
  else if letter.isUpper then some ⟨Fault.expecting "radix must be lowercase"
    [Fault.piece (String.ofList ['0', letter.toLower])], w.start, w.start + 2⟩
  else if s.head? = some '+' ∨ s.head? = some '-' then
    some ⟨Fault.expecting "unexpected sign" [], at_ s, at_ s + 1⟩
  else
    match s.dropWhile (fun c => c == '_' || (digitValue? base c).isSome) with
    | [] => w.underscoreFault? (fun c => (hexValue? c).isSome) s
    | rest => some (.between base.faultText (at_ rest))

/-! ## Decimals -/

/-- The value of decimal digits. -/
def decimalNat (s : List Char) : Nat := s.foldl (fun n c => n * 10 + (c.toNat - 0x30)) 0

/-- Digits and underscores at the front of a text, and what follows them. -/
def cutDigits (s : List Char) : List Char × List Char :=
  s.span (fun c => c.isDigit || c == '_')

/-- A part of a number that has no digits. -/
def noDigits (what : String) (position : Nat) : Fault :=
  .between (Fault.expecting what ["digits"]) position

/-- The fault of digits that start with a superfluous zero. -/
def leadingZero (position : Nat) : Fault :=
  ⟨Fault.expecting "unexpected leading zero" [], position, position + 1⟩

/-- What a decimal consists of, behind its sign. -/
structure DecimalParts where
  whole : List Char
  fraction : List Char
  /-- The exponent is below zero. -/
  isSmall : Bool
  exponent : List Char

/-- The parts of a decimal; `s` is the word without its sign. -/
def decimalParts (w : Word) (s : List Char) : Checked DecimalParts :=
  let at_ (rest : List Char) : Nat := w.stop - rest.length
  let (whole, rest) := cutDigits s
  if !whole.any Char.isDigit then .error (noDigits "invalid mantissa" (at_ s))
  else if whole.head? = some '0' ∧ 1 < (dropUnderscores whole).length then
    .error (leadingZero (at_ s))
  else
    let (fraction, rest, fractionFault) := match rest with
      | '.' :: r =>
        let (fraction, rest) := cutDigits r
        (fraction, rest, if fraction.any Char.isDigit then none
          else some (noDigits "invalid fraction" (at_ r)))
      | r => ([], r, none)
    match fractionFault with
    | some f => .error f
    | none =>
      let isExponent := rest.head? == some 'e' || rest.head? == some 'E'
      let unsigned := match rest.tail with
        | '+' :: r | '-' :: r => r
        | r => r
      let (exponent, after) := if isExponent then cutDigits unsigned else ([], rest)
      if isExponent && !exponent.any Char.isDigit then
        .error (noDigits "invalid exponent" (at_ unsigned))
      else if after ≠ [] then
        .error ⟨Fault.expecting "invalid float" [], at_ after, w.stop⟩
      else .ok ⟨whole, fraction, rest.tail.head? = some '-', exponent⟩

/-- The significand and the exponent of a decimal. -/
def DecimalParts.value (p : DecimalParts) : Nat × Int :=
  let size : Int := decimalNat (dropUnderscores p.exponent)
  let shown := dropUnderscores p.fraction
  (decimalNat (dropUnderscores p.whole ++ shown),
    (if p.isSmall then -size else size) - shown.length)

end Word

end ClarityCheck.Toml
