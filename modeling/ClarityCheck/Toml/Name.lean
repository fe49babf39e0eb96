import ClarityCheck.Toml.Expression

/-!
# Strings and names of TOML

The strings that quoted words write, and the names that the parts of keys are.
-/

namespace ClarityCheck.Toml

/-- Something that is read or a fault. -/
abbrev Checked := Except Fault

namespace Word

/-! ## Strings -/

/-- What is wrong with a string. -/
def stringFault : Quote → String
  | .literal => "invalid literal string"
  | .basic => "invalid basic string"
  | .longLiteral => "invalid multi-line literal string"
  | .longBasic => "invalid multi-line basic string"

/-- The characters around a string. -/
def delimiter : Quote → List Char
  | .literal => ['\'']
  | .basic => ['"']
  | .longLiteral => ['\'', '\'', '\'']
  | .longBasic => ['"', '"', '"']

/-- The string may go over several lines. -/
def isLong : Quote → Bool
  | .longLiteral | .longBasic => true
  | _ => false

/-- A character that may stand for itself in a string. -/
def isPlain (q : Quote) (c : Char) : Bool :=
  c == '\t' || (0x20 ≤ c.toNat && c.toNat != 0x7F) || (isLong q && c == '\n')

/-- What may stand for itself, as faults describe it. -/
def plainNames : Quote → List String
  | .literal => ["non-single-quote visible characters"]
  | .basic => ["non-double-quote visible characters", Fault.piece "\\"]
  | .longLiteral => [Fault.piece "'", "non-single-quote visible characters"]
  | .longBasic => [Fault.piece "\\", "non-double-quote visible characters"]

/-- The letters behind a backslash. -/
def escapeNames : List String :=
  ["b", "e", "f", "n", "r", "\\", "\"", "x", "u", "U"].map Fault.piece

/-- The character of an escape with one letter. -/
def shortEscape? (c : Char) : Option Char :=
  if c = 'b' then some '\x08'
  else if c = 'e' then some '\x1b'
  else if c = 'f' then some '\x0c'
  else if c = 'n' then some '\n'
  else if c = 'r' then some '\r'
  else if c = 't' then some '\t'
  else if c = '"' ∨ c = '\\' then some c
  else none

/-- The number of digits of an escape by code point. -/
def escapeDigits? (c : Char) : Option Nat :=
  if c = 'x' then some 2 else if c = 'u' then some 4 else if c = 'U' then some 8 else none

/-- The value of a hexadecimal digit. -/
def hexValue? (c : Char) : Option Nat :=
  if '0' ≤ c ∧ c ≤ '9' then some (c.toNat - 0x30)
  else if 'a' ≤ c ∧ c ≤ 'f' then some (c.toNat - 0x57)
  else if 'A' ≤ c ∧ c ≤ 'F' then some (c.toNat - 0x37)
  else none

/-- The value of hexadecimal digits. -/
def hexNat (s : List Char) : Nat := s.foldl (fun n c => n * 16 + (hexValue? c).getD 0) 0

/-- The character of a code point, if it has one. -/
def charOf? (n : Nat) : Option Char := if n.isValidChar then some (Char.ofNat n) else none

/-- The fault of a carriage return, at a position, that is not part of a line end. -/
def lonelyReturn (position : Nat) : Fault :=
  .between (Fault.expecting "carriage return must be followed by newline" ["newline"])
    (position + 1)

/-- Reads the inside of a string in which backslashes count, from a position on. -/
def unescape (q : Quote) (position : Nat) : List Char → Checked (List Char)
  | [] => .ok []
  | c :: s =>
    if c = '\\' then
      match s with
      | [] => .error (.between (Fault.expecting "missing escaped value" escapeNames) (position + 1))
      | d :: r =>
        match shortEscape? d with
        | some e => (unescape q (position + 2) r).map (e :: ·)
        | none =>
          match escapeDigits? d with
          | some n =>
            let digits := (r.take n).takeWhile (fun c => (hexValue? c).isSome)
            if digits.length < n then
              .error (.between (Fault.expecting "too few unicode value digits"
                ["unicode hexadecimal value"]) (position + 2 + digits.length))
            else
              match charOf? (hexNat digits) with
              | some e => (unescape q (position + 2 + n) (r.drop n)).map (e :: ·)
              | none => .error ⟨Fault.expecting "invalid value" ["unicode hexadecimal value"],
                  position + 2, position + 2 + n⟩
          | none =>
            let isSpace (c : Char) : Bool := Token.isBlank c || c == '\n' || c == '\r'
            let onLine := r.dropWhile Token.isBlank
            if isLong q ∧ isSpace d ∧ (d = '\n' ∨ d = '\r' ∨
                onLine.head? = some '\n' ∨ onLine.head? = some '\r') then
              let rest := r.dropWhile isSpace
              unescape q (position + 2 + (r.length - rest.length)) rest
            else
              .error (.between (Fault.expecting "missing escaped value" escapeNames) (position + 1))
    else if isPlain q c then (unescape q (position + 1) s).map (c :: ·)
    else if c = '\r' ∧ isLong q then
      if s.head? = some '\n' then unescape q (position + 1) s else .error (lonelyReturn position)
    else .error (.between (Fault.expecting (stringFault q) (plainNames q)) position)
termination_by s => s.length
decreasing_by
  all_goals simp_wf
  all_goals first
    | omega
    | exact Nat.lt_succ_of_lt (Nat.lt_succ_of_le (List.dropWhile_suffix _).length_le)
    | exact Nat.le_succ_of_le (List.dropWhile_suffix _).length_le

/-- Reads the inside of a string in which every character stands for itself, from a position on. -/
def plain (q : Quote) (position : Nat) : List Char → Checked (List Char)
  | [] => .ok []
  | c :: s =>
    if isPlain q c then (plain q (position + 1) s).map (c :: ·)
    else if c = '\r' ∧ isLong q then
      if s.head? = some '\n' then plain q (position + 1) s else .error (lonelyReturn position)
    else .error (.between (Fault.expecting (stringFault q) (plainNames q)) position)

/-- The inside of a string without a line end at its front. -/
def dropFirstNewline (q : Quote) (s : List Char) : List Char :=
  if isLong q then
    match s with
    | '\n' :: r => r
    | '\r' :: '\n' :: r => r
    | r => r
  else s

/-- What ends a string, as faults describe it. -/
def closing : Quote → String
  | .literal | .longLiteral => Fault.piece "'"
  | .basic | .longBasic => Fault.piece "\""

/-- The string that a quoted word writes. -/
def string (w : Word) (q : Quote) : Checked String :=
  let inside := w.chars.drop (delimiter q).length
  match Text.dropEnd? (delimiter q) inside with
  | none =>
    .error (.between
      (Fault.expecting (stringFault q) [closing q]) w.stop)
  | some inside =>
    let body := dropFirstNewline q inside
    let start := w.start + (delimiter q).length + (inside.length - body.length)
    let read := match q with
      | .literal | .longLiteral => plain q start body
      | .basic | .longBasic => unescape q start body
    read.map String.ofList

/-! ## Names -/

/-- A character of a name without quotes. -/
def isNameChar (c : Char) : Bool := c.isAlphanum || c == '-' || c == '_'

/-- The characters of names, as faults describe them. -/
def nameChars : List String := ["letters", "numbers", Fault.piece "-", Fault.piece "_"]

/-- The fault of a part of a key that may go over several lines. -/
def longKey (w : Word) (kind : String) : Fault :=
  w.fault (Fault.expecting ("keys cannot be multi-line " ++ kind ++ " strings")
    ["basic string", "literal string"])

/-- The name that a part of a key is. -/
def name (w : Word) : Checked String :=
  match w.quote with
  | some q =>
    match q with
    | .longLiteral => .error (w.longKey "literal")
    | .longBasic => .error (w.longKey "basic")
    | .literal | .basic => w.string q
  | none =>
    if w.chars = [] then
      .error (.between (Fault.expecting "unquoted keys cannot be empty" nameChars) w.start)
    else
      match w.chars.dropWhile isNameChar with
      | [] => .ok (String.ofList w.chars)
      | rest => .error (.between (Fault.expecting "invalid unquoted key" nameChars)
          (w.stop - rest.length))

end Word

end ClarityCheck.Toml
