/-!
# UTF-8

Bytes and characters. `encode` writes characters, `decode?` reads bytes that are UTF-8 throughout,
and `decodeLossy` reads any bytes, with U+FFFD for each longest beginning of a character that the
bytes break off.

Main statement: `size_eq_length_encode` (the size of a text is the number of bytes that write it).
-/

namespace ClarityCheck

/-- A sequence of bytes: the contents of a file, a stream, or a name that need not be text. -/
abbrev Bytes := List UInt8

namespace Text.Utf8

/-- The bytes that write a character. -/
def encodeChar (c : Char) : Bytes := String.utf8EncodeChar c

/-- The bytes that write a text. -/
def encode (s : List Char) : Bytes := s.flatMap encodeChar

/-- The number of bytes that write a text. -/
def size (s : List Char) : Nat := s.foldr (fun c n => c.utf8Size + n) 0

@[simp] theorem size_nil : size [] = 0 := rfl

@[simp] theorem size_cons (c : Char) (s : List Char) : size (c :: s) = c.utf8Size + size s := rfl

/-- The size of a text is the number of bytes that write it. -/
theorem size_eq_length_encode (s : List Char) : size s = (encode s).length := by
  induction s with
  | nil => rfl
  | cons c s ih => simp [encode, encodeChar, ih]

/-! ## Reading -/

/-- What a byte at the start of a character announces: the number of bytes that follow it, the range
of the first of these, and the bits that it contributes itself. -/
def leading? (b : UInt8) : Option (Nat × UInt8 × UInt8 × Nat) :=
  if b ≤ 0x7F then some (0, 0, 0, b.toNat)
  else if 0xC2 ≤ b && b ≤ 0xDF then some (1, 0x80, 0xBF, b.toNat - 0xC0)
  else if b == 0xE0 then some (2, 0xA0, 0xBF, 0)
  else if 0xE1 ≤ b && b ≤ 0xEC then some (2, 0x80, 0xBF, b.toNat - 0xE0)
  else if b == 0xED then some (2, 0x80, 0x9F, 13)
  else if 0xEE ≤ b && b ≤ 0xEF then some (2, 0x80, 0xBF, b.toNat - 0xE0)
  else if b == 0xF0 then some (3, 0x90, 0xBF, 0)
  else if 0xF1 ≤ b && b ≤ 0xF3 then some (3, 0x80, 0xBF, b.toNat - 0xF0)
  else if b == 0xF4 then some (3, 0x80, 0x8F, 4)
  else none

/-- Where a reader stands between two bytes: between characters, or inside one, with the bytes it
still needs, the range of the next of them and the bits read so far. -/
inductive State where
  | start
  | inside (missing : Nat) (low high : UInt8) (bits : Nat)
  deriving DecidableEq, Repr

/-- Starts a character with this byte. A byte that starts none is reported at once. -/
def State.begin (b : UInt8) : List (Option Char) × State :=
  match leading? b with
  | some (0, _, _, bits) => ([some (Char.ofNat bits)], .start)
  | some (n + 1, low, high, bits) => ([], .inside (n + 1) low high bits)
  | none => ([none], .start)

/-- One byte: the characters that it completes or breaks off, `none` standing for a broken one, and
the state after it. -/
def State.step : State → UInt8 → List (Option Char) × State
  | .start, b => State.begin b
  | .inside missing low high bits, b =>
    if low ≤ b && b ≤ high then
      let bits := bits * 64 + (b.toNat - 0x80)
      match missing with
      | 0 | 1 => ([some (Char.ofNat bits)], .start)
      | n + 1 => ([], .inside n 0x80 0xBF bits)
    else
      let next := State.begin b
      (none :: next.1, next.2)

/-- Reads bytes from a state; a character that the end breaks off counts as broken. -/
def decodeFrom (state : State) : Bytes → List (Option Char)
  | [] => match state with
    | .start => []
    | .inside .. => [none]
  | b :: bs =>
    let next := state.step b
    next.1 ++ decodeFrom next.2 bs

/-- The characters that bytes write, `none` standing for each broken one. -/
def decodeUnits (bs : Bytes) : List (Option Char) := decodeFrom .start bs

/-- The character that stands for bytes that write none. -/
def replacement : Char := '\uFFFD'

/-- Reads any bytes as text. -/
def decodeLossy (bs : Bytes) : List Char := (decodeUnits bs).map (·.getD replacement)

/-- Reads bytes as text, if they are UTF-8 throughout. -/
def decode? (bs : Bytes) : Option (List Char) := (decodeUnits bs).mapM id

end Text.Utf8

end ClarityCheck
