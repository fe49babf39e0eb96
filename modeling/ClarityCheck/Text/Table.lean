import ClarityCheck.Text.Cut

/-!
# Tables of characters

Tables over characters are written as words with hexadecimal numbers in them. A property of
characters is a table of runs: each word names how far a run starts behind the start of the run
before, its length, and the value of the property if it has several.
-/

namespace ClarityCheck.Text.Table

/-- The value of a hexadecimal number. -/
def hexNat (s : List Char) : Nat :=
  s.foldl (fun n c => n * 16 + (if '0' ≤ c ∧ c ≤ '9' then c.toNat - 0x30 else c.toNat - 0x57)) 0

/-- The value of a hexadecimal number with a sign. -/
def hexInt : List Char → Int
  | '-' :: s => -(hexNat s : Int)
  | s => hexNat s

/-- The words of a table. -/
def words (data : List String) : List (List Char) := data.flatMap fun l => splitOn ' ' l.toList

/-- A digit of a hexadecimal number. -/
def isHex (c : Char) : Bool := ('0' ≤ c && c ≤ '9') || ('a' ≤ c && c ≤ 'f')

/-- Adds up the distances between runs, so that each has its start. -/
def withStarts {α : Type} : Nat → List (Nat × α) → List (Nat × α)
  | _, [] => []
  | start, (gap, a) :: rest => (start + gap, a) :: withStarts (start + gap) rest

/-- Runs of characters, each a start and a length, with the text of their property. -/
def runs (data : List String) : List (Nat × Nat × List Char) :=
  withStarts 0 ((words data).map fun w =>
    let rest := (w.dropWhile isHex).drop 1
    (hexNat (w.takeWhile isHex), hexNat (rest.takeWhile isHex), (rest.dropWhile isHex).drop 1))

/-- The property of a character in a table. -/
def property? (table : List (Nat × Nat × List Char)) (c : Char) : Option (List Char) :=
  table.findSome? fun e => if e.1 ≤ c.toNat ∧ c.toNat < e.1 + e.2.1 then some e.2.2 else none

end ClarityCheck.Text.Table
