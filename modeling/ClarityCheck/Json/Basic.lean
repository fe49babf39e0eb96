import ClarityCheck.Decimal.Binary64

/-!
# JSON values

A value as a reader finds it: numbers keep the distinction between integers and decimals, and
objects keep their members in order, duplicates included.
-/

namespace ClarityCheck

/-- A number: an integer or a double with its sign. A negative zero and an integer outside the
64-bit range count as doubles. -/
inductive Json.Number where
  | integer (value : Int)
  | double (negative : Bool) (size : Decimal.Binary64)
  deriving DecidableEq, Repr

/-- A JSON value. -/
inductive Json where
  | null
  | bool (value : Bool)
  | num (value : Json.Number)
  | str (value : String)
  | arr (elements : List Json)
  | obj (members : List (String × Json))
  deriving Repr

namespace Json

/-- A natural number as a value. -/
def ofNat (n : Nat) : Json := .num (.integer n)

/-- The member of this name; of several the last one counts. -/
def get? (name : String) : Json → Option Json
  | .obj members => members.reverse.lookup name
  | _ => none

/-- The text of a value that is a string. -/
def string? : Json → Option String
  | .str s => some s
  | _ => none

end Json

end ClarityCheck
