import ClarityCheck.Text.Cut
import ClarityCheck.Text.Utf8

/-!
# Faults in TOML documents

A fault says what is wrong, what could stand there instead, and where it is. Its wording shows the
line with the place marked.
-/

namespace ClarityCheck.Toml

/-- A fault, with the numbers of characters before and up to the end of what is marked. -/
structure Fault where
  message : String
  start : Nat
  stop : Nat
  deriving DecidableEq, Repr

namespace Fault

/-- A fault at a place between two characters. -/
def between (message : String) (position : Nat) : Fault := ⟨message, position, position⟩

/-- What is wrong, with what could stand there instead. -/
def expecting (what : String) : List String → String
  | [] => what ++ ", expected nothing"
  | expected => what ++ ", expected " ++ ", ".intercalate expected

/-- A piece of a document in backticks. -/
def piece (s : String) : String := "\x60" ++ s ++ "\x60"

/-- The characters of a document behind its last line feed. -/
def lastLine (s : List Char) : List Char := (s.reverse.takeWhile (· ≠ '\n')).reverse

/-- The number of characters on its line before a position, and the number of lines before it. A
position at the end of a document that ends in a line feed counts as being on the line of that feed.
When a character at the position needs several bytes, its column counts bytes. -/
def place (source : List Char) (position : Nat) : Nat × Nat :=
  let index := min position (source.length - 1)
  let before := source.take index
  let column := lastLine before
  let isWide := (source[position]?).any (fun c => 0x80 ≤ c.toNat)
  (before.count '\n',
    (if isWide then Text.Utf8.size column else column.length) + (position - index))

/-- The wording of a fault in a document. -/
def text (f : Fault) (source : List Char) : String :=
  let (line, column) := place source f.start
  let content := ((Text.splitLines source)[line]?).getD []
  let number := toString (line + 1)
  let margin := String.ofList (List.replicate (number.length + 1) ' ') ++ "|"
  let marked := min (Text.Utf8.size ((source.take f.stop).drop f.start))
    (Text.Utf8.size content - column)
  "TOML parse error at line " ++ number ++ ", column " ++ toString (column + 1) ++ "\n"
    ++ margin ++ "\n"
    ++ number ++ " | " ++ String.ofList content ++ "\n"
    ++ margin ++ String.ofList (List.replicate (column + 1) ' ')
    ++ String.ofList (List.replicate (max marked 1) '^') ++ "\n"
    ++ f.message ++ "\n"

end Fault

end ClarityCheck.Toml
