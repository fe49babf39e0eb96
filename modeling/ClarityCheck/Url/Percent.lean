import ClarityCheck.Text.Utf8

/-!
# Percent-encoding

In a URL a byte can be written as a percent sign and two hexadecimal digits. Which characters have
to be written so depends on the part of the URL; those beyond ASCII and controls always have.

Main statement: `encode_eq_self` (a text without characters of the set stays as it is).
-/

namespace ClarityCheck.Url

open ClarityCheck.Text

/-- A set of characters of ASCII. -/
abbrev CharSet := Char → Bool

namespace Percent

/-- Controls and everything beyond ASCII. -/
def controls : CharSet := fun c => c.toNat < 0x20 || 0x7E < c.toNat

/-- What is encoded in a fragment. -/
def fragment : CharSet := fun c => controls c || [' ', '"', '<', '>', '\x60'].contains c

/-- What is encoded in a query. -/
def query : CharSet := fun c => controls c || [' ', '"', '#', '<', '>'].contains c

/-- What is encoded in the query of a scheme with a server. -/
def serverQuery : CharSet := fun c => query c || c == '\''

/-- What is encoded in a segment of a path. -/
def path : CharSet := fun c => fragment c || ['#', '?', '\x7b', '\x7d'].contains c

/-- What is encoded in a user name or a password. -/
def userinfo : CharSet := fun c =>
  path c || ['/', ':', ';', '=', '@', '[', '\\', ']', '^', '|'].contains c

/-- A hexadecimal digit in upper case. -/
def hexDigit (n : Nat) : Char := Char.ofNat (if n < 10 then 0x30 + n else 0x37 + n)

/-- A byte as it is written encoded. -/
def encodeByte (b : UInt8) : List Char := ['%', hexDigit (b.toNat / 16), hexDigit (b.toNat % 16)]

/-- A character, encoded if it is in a set. -/
def encodeChar (set : CharSet) (c : Char) : List Char :=
  if set c then (Utf8.encodeChar c).flatMap encodeByte else [c]

/-- A text with the characters of a set encoded. -/
def encode (set : CharSet) (s : List Char) : List Char := s.flatMap (encodeChar set)

/-- A text without characters of the set stays as it is. -/
theorem encode_eq_self {set : CharSet} {s : List Char} (h : ∀ c ∈ s, set c = false) :
    encode set s = s := by
  induction s with
  | nil => rfl
  | cons c s ih =>
    have hc : set c = false := h c (by simp)
    have hs : encode set s = s := ih (fun d hd => h d (by simp [hd]))
    simpa [encode, encodeChar, hc] using hs

/-- The value of a hexadecimal digit. -/
def hexValue? (c : Char) : Option Nat :=
  if '0' ≤ c ∧ c ≤ '9' then some (c.toNat - 0x30)
  else if 'a' ≤ c ∧ c ≤ 'f' then some (c.toNat - 0x57)
  else if 'A' ≤ c ∧ c ≤ 'F' then some (c.toNat - 0x37)
  else none

/-- The bytes of a text with its encoded bytes decoded. -/
def decode : List Char → Bytes
  | [] => []
  | '%' :: a :: b :: s =>
    match hexValue? a, hexValue? b with
    | some x, some y => UInt8.ofNat (x * 16 + y) :: decode s
    | _, _ => Utf8.encodeChar '%' ++ decode (a :: b :: s)
  | c :: s => Utf8.encodeChar c ++ decode s

end Percent

end ClarityCheck.Url
