import ClarityCheck.Decimal.Binary64
import ClarityCheck.Environment
import ClarityCheck.Settings.Choice
import ClarityCheck.Settings.Layer
import ClarityCheck.Text.Blank
import ClarityCheck.Toml.Edition

/-!
# Settings from environment variables

A variable whose name starts with the tool's own beginning sets what the rest of its name says; two
underscores lead into an object. Values are texts, but a text that reads as a truth value, a number,
a quoted text, a list or an object stands for that. A truth value may be written in any mixture of
cases when it is the whole text; inside a list or an object it is written in lower case.
-/

namespace ClarityCheck.Settings.Variables

open ClarityCheck.Text

/-! ## Values -/

/-- A character that ends a word in a value. -/
def isSeparator (c : Char) : Bool := "[]\x7b\x7d,".toList.contains c

/-- A blank of ASCII. -/
def isSpace (c : Char) : Bool := c == ' ' || c == '\t' || c == '\n' || c == '\x0c' || c == '\r'

/-- The text without blanks in front. -/
def skipSpace (s : List Char) : List Char := s.dropWhile isSpace

/-- The digits behind an optional sign, if there are any and nothing else. -/
def digits? (s : List Char) : Option (List Char) :=
  if s ≠ [] ∧ s.all Char.isDigit then some s else none

/-- An integer that fits into 64 bits, with or without a sign. -/
def integer? (s : List Char) : Option Int :=
  let value (ds : List Char) : Int := Toml.Word.decimalNat ds
  let read : Option Int := match s with
    | '+' :: r => (digits? r).map value
    | '-' :: r => (digits? r).map (- value ·)
    | r => (digits? r).map value
  read.filter fun n => -0x8000_0000_0000_0000 ≤ n ∧ n < 0x1_0000_0000_0000_0000

/-- The exponent of a decimal, with its letter; a decimal may have none. -/
def exponent? : List Char → Option Int
  | [] => some 0
  | c :: s =>
    if c = 'e' ∨ c = 'E' then
      let value (ds : List Char) : Int := Toml.Word.decimalNat ds
      match s with
      | '+' :: r => (digits? r).map value
      | '-' :: r => (digits? r).map (- value ·)
      | r => (digits? r).map value
    else none

/-- A decimal with a point. One that is too large for a double is infinite and so stands for
nothing. -/
def decimal? (s : List Char) : Option Json :=
  let negative := s.head? == some '-'
  let unsigned := if s.head? == some '-' || s.head? == some '+' then s.tail else s
  let whole := unsigned.takeWhile Char.isDigit
  match unsigned.dropWhile Char.isDigit with
  | '.' :: r =>
    let fraction := r.takeWhile Char.isDigit
    if whole = [] ∧ fraction = [] then none
    else
      (exponent? (r.dropWhile Char.isDigit)).map fun (e : Int) =>
        let size := Toml.Word.decimalNat (whole ++ fraction)
        let power := e - fraction.length
        if Decimal.exceedsDouble size power then .null
          else .num (.double negative (Decimal.nearest size power))
  | _ => none

/-- A word as a value. -/
def word (s : List Char) : Json :=
  let t := trim s
  match if t.contains '.' then decimal? t else none with
  | some v => v
  | none =>
    match integer? t with
    | some n => .num (.integer n)
    | none => .str (String.ofList t)

/-- What follows a truth value in front of a text. -/
def truth? (s : List Char) : Option (Bool × List Char) :=
  match dropStart? "true".toList s with
  | some r => some (true, r)
  | none => (dropStart? "false".toList s).map (false, ·)

/-- A word that follows in a value, with what is behind it. -/
def readWord (s : List Char) : Json × List Char :=
  (word (s.takeWhile (fun c => !isSeparator c)), s.dropWhile (fun c => !isSeparator c))

/-- The number of characters of a quoted text behind its opening quotation mark, up to the closing
one. -/
def quotedLength? : List Char → Option Nat
  | [] => none
  | '"' :: _ => some 0
  | '\\' :: _ :: s => (quotedLength? s).map (· + 2)
  | _ :: s => (quotedLength? s).map (· + 1)

/-- Reads a quoted text behind its opening quotation mark. -/
def quoted? (s : List Char) : Option (String × List Char) :=
  match quotedLength? s with
  | none => none
  | some n =>
    if (Toml.Edition.escapeFault? 0 (s.take n)).isSome then none
    else
      match Toml.Word.unescape .basic 0 (s.take n) with
      | .ok t => some (String.ofList t, s.drop (n + 1))
      | .error _ => none

/-- Reads the name of a member. -/
def name? (s : List Char) : Option (String × List Char) :=
  match s with
  | '"' :: r => quoted? r
  | _ =>
    match s.span Toml.Word.isNameChar with
    | ([], _) => none
    | (name, rest) => some (String.ofList name, rest)

mutual

/-- Reads a value. `fuel` bounds the number of characters that are looked at. -/
def value? (fuel : Nat) (s : List Char) : Option (Json × List Char) :=
  match fuel with
  | 0 => none
  | fuel + 1 =>
    let read : Option (Json × List Char) := match skipSpace s with
      | '[' :: r => (items? fuel [] r).map fun p => (.arr p.1, p.2)
      | '\x7b' :: r => (members? fuel [] r).map fun p => (.obj p.1, p.2)
      | '"' :: r => (quoted? r).map fun p => (.str p.1, p.2)
      | '\'' :: r =>
        match r with
        | c :: '\'' :: rest => some (.str (String.ofList [c]), rest)
        | _ => none
      | r =>
        match truth? r with
        | some (b, rest) => some (.bool b, rest)
        | none => some (readWord r)
    read.map fun p => (p.1, skipSpace p.2)

/-- Reads the items of a list, of which some have been read in reverse order. -/
def items? (fuel : Nat) (before : List Json) (s : List Char) : Option (List Json × List Char) :=
  match fuel, s with
  | 0, _ => none
  | _, ']' :: r => some (before.reverse, r)
  | fuel + 1, s =>
    match value? fuel s with
    | some (v, ',' :: r) => items? fuel (v :: before) r
    | some (v, ']' :: r) => some ((v :: before).reverse, r)
    | _ => none

/-- Reads the members of an object, of which some have been read. -/
def members? (fuel : Nat) (before : Layer) (s : List Char) : Option (Layer × List Char) :=
  match fuel, s with
  | 0, _ => none
  | _, '\x7d' :: r => some (before, r)
  | fuel + 1, s =>
    match name? (skipSpace s) with
    | none => none
    | some (name, afterName) =>
      match skipSpace afterName with
      | '=' :: r =>
        match value? fuel r with
        | some (v, ',' :: r) => members? fuel (before.put name v) r
        | some (v, '\x7d' :: r) => some (before.put name v, r)
        | _ => none
      | _ => none

end

/-- Lists are written with commas between their items, without brackets. -/
def isList (s : List Char) : Bool :=
  s.contains ',' && !(s.head?.any fun c => "[\x7b\"'".toList.contains c)

/-- What the value of a variable stands for. -/
def read (text : String) : Json :=
  let s := trim text.toList
  if isList s then
    .arr ((splitOn ',' s).map fun item => .str (String.ofList (trim item)))
  else if sameWord (String.ofList s) "true" then .bool true
  else if sameWord (String.ofList s) "false" then .bool false
  else
    match value? (2 * s.length + 2) s with
    | some (v, []) => v
    | _ => .str (String.ofList s)

/-! ## Names -/

/-- The beginning of the names of the tool's own variables. -/
def beginning : String := "CLARIGATE_"

/-- Replaces two underscores in a row by a dot. -/
def dotted : List Char → List Char
  | '_' :: '_' :: s => '.' :: dotted s
  | c :: s => c :: dotted s
  | [] => []

/-- The names of members that lead to what a variable sets, if it is one of the tool's own. -/
def path? (name : String) : Option (List String) :=
  let s := trim name.toList
  let size := beginning.length
  if sameWord (String.ofList (s.take size)) beginning then
    let parts := splitOn '.' (trim (dotted ((s.drop size).map lowerAscii)))
    if parts.all (· ≠ []) then some (parts.map String.ofList) else none
  else none

/-- The object in which a path leads to a value. -/
def nested : List String → Json → Json
  | [], v => v
  | name :: rest, v => .obj [(name, nested rest v)]

/-- The settings that variables give. Of two variables for the same setting the later one counts,
also when both lead into an object. -/
def layer (vs : List Variable) : Layer :=
  vs.foldl (fun l v =>
    match path? v.name with
    | some (name :: rest) => l.put name (nested rest (read v.value))
    | _ => l) []

end ClarityCheck.Settings.Variables
