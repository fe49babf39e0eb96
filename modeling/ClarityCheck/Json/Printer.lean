import ClarityCheck.Decimal.Shortest
import ClarityCheck.Json.Basic

/-!
# Printing JSON

Compact JSON text: no blanks, members in their order, and in strings an escape only where the
grammar demands one, so a quotation mark, a backslash and the control characters below U+0020.
-/

namespace ClarityCheck.Json

/-- A hexadecimal digit in lower case. -/
def hexDigit (n : Nat) : Char := if n < 10 then Char.ofNat (0x30 + n) else Char.ofNat (0x57 + n)

/-- A character as it stands inside a string. -/
def escapeChar (c : Char) : List Char :=
  if c = '"' then ['\\', '"']
  else if c = '\\' then ['\\', '\\']
  else if c = '\x08' then ['\\', 'b']
  else if c = '\t' then ['\\', 't']
  else if c = '\n' then ['\\', 'n']
  else if c = '\x0c' then ['\\', 'f']
  else if c = '\r' then ['\\', 'r']
  else if c.toNat < 0x20 then
    ['\\', 'u', '0', '0', hexDigit (c.toNat / 16), hexDigit (c.toNat % 16)]
  else [c]

/-- A string with its quotation marks. -/
def renderString (s : List Char) : List Char := '"' :: s.flatMap escapeChar ++ ['"']

/-- The text of a number. A double is written with the fewest digits that read back. -/
def Number.render : Number → List Char
  | .integer n => (toString n).toList
  | .double negative x => (Decimal.text negative x).toList

mutual

/-- The compact text of a value. -/
def render : Json → List Char
  | .null => "null".toList
  | .bool true => "true".toList
  | .bool false => "false".toList
  | .num n => n.render
  | .str s => renderString s.toList
  | .arr [] => ['[', ']']
  | .arr (v :: vs) => '[' :: render v ++ renderElements vs ++ [']']
  | .obj [] => ['\x7b', '\x7d']
  | .obj ((k, v) :: ms) =>
    '\x7b' :: renderString k.toList ++ ':' :: render v ++ renderMembers ms ++ ['\x7d']

/-- The elements of an array behind the first, each behind a comma. -/
def renderElements : List Json → List Char
  | [] => []
  | v :: vs => ',' :: render v ++ renderElements vs

/-- The members of an object behind the first, each behind a comma. -/
def renderMembers : List (String × Json) → List Char
  | [] => []
  | (k, v) :: ms => ',' :: renderString k.toList ++ ':' :: render v ++ renderMembers ms

end

/-- The compact text of a value as a string. -/
def compress (v : Json) : String := String.ofList v.render

end ClarityCheck.Json
