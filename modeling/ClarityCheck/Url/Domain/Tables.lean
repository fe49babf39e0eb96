import ClarityCheck.Text.Table
import ClarityCheck.Url.Domain.CompositionData
import ClarityCheck.Url.Domain.MappingData
import ClarityCheck.Url.Domain.PropertyData

/-!
# Looking up characters

The tables of this folder as functions on characters: what a domain name makes of a character, how
characters compose and decompose, and the properties that decide whether a label is well formed.
-/

namespace ClarityCheck.Url.Domain

open ClarityCheck.Text ClarityCheck.Text.Table

/-! ## Reading the tables -/

/-- What happens to a run of characters. -/
inductive Rule where
  | disallowed (count : Nat)
  | ignored (count : Nat)
  | shifted (count : Nat) (by_ : Int)
  | paired (count : Nat)
  | spelled (texts : List (List Char))

/-- The rule that the end of a word of the mapping table writes. -/
def Rule.ofWord : List Char → Rule
  | '!' :: s => .disallowed (hexNat s)
  | '~' :: s => .ignored (hexNat s)
  | '|' :: s => .paired (hexNat s)
  | '+' :: s =>
    match cut? ',' s with
    | some (n, d) => .shifted (hexNat n) (hexInt d)
    | none => .disallowed 0
  | s => .spelled ((splitOn ',' (s.drop 1)).map fun t =>
      (splitOn '.' t).map fun c => Char.ofNat (hexNat c))

/-- The number of characters of a run. -/
def Rule.count : Rule → Nat
  | .disallowed n | .ignored n | .shifted n _ | .paired n => n
  | .spelled texts => texts.length

/-- The mapping table. -/
def mappingTable : List (Nat × Rule) :=
  withStarts 0 ((words mappingData).map fun w =>
    (hexNat (w.takeWhile isHex), Rule.ofWord (w.dropWhile isHex)))

/-- The composed characters with their pairs. -/
def compositionTable : List (Nat × Nat × Nat) :=
  withStarts 0 ((words compositionData).map fun w =>
    match splitOn ',' w with
    | [gap, a, b] => (hexNat gap, hexNat a, hexNat b)
    | _ => (0, 0, 0))

def combiningClassTable := runs combiningClassData
def markTable := runs markData
def directionTable := runs directionData
def joiningTable := runs joiningData

/-! ## What the tables say -/

/-- What a rule makes of the character at an index of its run. -/
def Rule.apply (r : Rule) (c : Char) (index : Nat) : Option (List Char) :=
  match r with
  | .disallowed _ => none
  | .ignored _ => some []
  | .shifted _ d => some [Char.ofNat (c.toNat + d).toNat]
  | .paired _ => some [if index % 2 = 0 then Char.ofNat (c.toNat + 1) else c]
  | .spelled texts => texts[index]?

/-- What a domain name makes of a character: nothing when it is not allowed. -/
def mapChar? (c : Char) : Option (List Char) :=
  if 'A' ≤ c ∧ c ≤ 'Z' then some [Char.ofNat (c.toNat + 32)]
  else if c.toNat < 0x80 then some [c]
  else
    match mappingTable.find? fun e => e.1 ≤ c.toNat ∧ c.toNat < e.1 + e.2.count with
    | some (start, r) => r.apply c (c.toNat - start)
    | none => some [c]

/-- The combining class of a character. -/
def combiningClass (c : Char) : Nat :=
  if c.toNat < 0x300 then 0 else ((property? combiningClassTable c).map hexNat).getD 0

/-- The character combines with the one before it. -/
def isMark (c : Char) : Bool := (property? markTable c).isSome

/-- The class of writing direction of a character, `l` for left to right. -/
def direction (c : Char) : Char :=
  match property? directionTable c with
  | some (d :: _) => d
  | _ => 'l'

/-- The way a letter joins, `u` if it does not. -/
def joining (c : Char) : Char :=
  match property? joiningTable c with
  | some (d :: _) => d
  | _ => 'u'

end ClarityCheck.Url.Domain
