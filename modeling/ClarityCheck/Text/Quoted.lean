import ClarityCheck.Text.ShapelessData
import ClarityCheck.Text.Table
import ClarityCheck.Text.Utf8

/-!
# Quoted text

A text between quotation marks as messages show it: quotation marks, backslashes and characters
without a shape of their own are written as escapes. A path is quoted in the same way, except that
it escapes apostrophes as well, and bytes that write no character.
-/

namespace ClarityCheck.Text

/-- The runs of characters beyond ASCII that have no shape of their own. -/
def shapelessTable : List (Nat × Nat × List Char) := Table.runs shapelessData

/-- A character without a shape of its own: a control or format character, a separator, a combining
mark or a code point without a character. -/
def isShapeless (c : Char) : Bool :=
  if c.toNat < 0x80 then c.toNat < 0x20 || c.toNat == 0x7F
  else (Table.property? shapelessTable c).isSome

/-- A character by its code point. -/
def codeEscape (c : Char) : List Char :=
  "\\u\x7b".toList ++ Nat.toDigits 16 c.toNat ++ ['\x7d']

/-- A character as it stands between quotation marks. -/
def quotedChar (c : Char) : List Char :=
  if c = '"' then ['\\', '"']
  else if c = '\\' then ['\\', '\\']
  else if c = '\n' then ['\\', 'n']
  else if c = '\r' then ['\\', 'r']
  else if c = '\t' then ['\\', 't']
  else if c.toNat = 0 then ['\\', '0']
  else if isShapeless c then codeEscape c
  else [c]

/-- The text between quotation marks. -/
def quoted (s : String) : String :=
  String.ofList ('"' :: s.toList.flatMap quotedChar ++ ['"'])

/-! ## Bytes -/

/-- A digit of a hexadecimal number in upper case. -/
def upperHexDigit (n : Nat) : Char :=
  if n < 10 then Char.ofNat (0x30 + n) else Char.ofNat (0x37 + n)

/-- A byte that writes no character. -/
def byteEscape (b : UInt8) : List Char :=
  ['\\', 'x', upperHexDigit (b.toNat / 16), upperHexDigit (b.toNat % 16)]

/-- A character of a quoted path. -/
def quotedPathChar (c : Char) : List Char := if c = '\'' then ['\\', '\''] else quotedChar c

/-- Writes bytes from a state of the reader of characters; `pending` are the bytes of the character
that is being read. -/
def quoteBytesFrom (state : Utf8.State) (pending : Bytes) : Bytes → List Char
  | [] => pending.flatMap byteEscape
  | b :: bs =>
    match state.step b with
    | ([], next) => quoteBytesFrom next (pending ++ [b]) bs
    | ([some c], next) => quotedPathChar c ++ quoteBytesFrom next [] bs
    | ([none], .start) => (pending ++ [b]).flatMap byteEscape ++ quoteBytesFrom .start [] bs
    | (none :: broken, next) =>
      let after := match broken, next with
        | [some c], _ => quotedPathChar c
        | [none], _ => byteEscape b
        | _, _ => []
      let started := match next with
        | .start => []
        | .inside .. => [b]
      pending.flatMap byteEscape ++ after ++ quoteBytesFrom next started bs
    | (_, next) => quoteBytesFrom next [] bs

/-- Bytes that write a path between quotation marks. -/
def quotedBytes (bs : Bytes) : String :=
  String.ofList ('"' :: quoteBytesFrom .start [] bs ++ ['"'])

end ClarityCheck.Text
