import ClarityCheck.Text.AlphanumericData
import ClarityCheck.Text.Table

/-!
# Letters and digits

A character is a letter or a digit when it has the Unicode property `Alphabetic` or a general
category of numbers. The letters and digits of ASCII are told by themselves.
-/

namespace ClarityCheck.Text

/-- The runs of letters and digits beyond ASCII. -/
def alphanumericTable : List (Nat × Nat × List Char) := Table.runs alphanumericData

/-- A letter or a digit. -/
def isAlphanumeric (c : Char) : Bool :=
  if c.toNat < 0x80 then c.isAlphanum else (Table.property? alphanumericTable c).isSome

end ClarityCheck.Text
