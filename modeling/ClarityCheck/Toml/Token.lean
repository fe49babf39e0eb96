import ClarityCheck.Text.Cut

/-!
# Tokens of TOML

A document is cut into tokens before anything is known about its structure: punctuation, blanks,
comments, line ends, quoted strings and atoms, which are runs of everything else. Nothing is lost,
and a quote that is left open ends at the end of its line.
-/

namespace ClarityCheck.Toml

/-- The ways to quote a string. -/
inductive Quote where
  | literal
  | basic
  | longLiteral
  | longBasic
  deriving DecidableEq, Repr

namespace Token

/-- The kinds of tokens. -/
inductive Kind where
  | dot
  | equals
  | comma
  | openBracket
  | closeBracket
  | openBrace
  | closeBrace
  | blank
  | comment
  | newline
  | string (quote : Quote)
  | atom
  /-- The end of the document. -/
  | finish
  deriving DecidableEq, Repr

end Token

/-- A token, with the number of characters before it. -/
structure Token where
  kind : Token.Kind
  start : Nat
  chars : List Char
  deriving DecidableEq, Repr

namespace Token

/-- The number of characters up to the end of a token. -/
def stop (t : Token) : Nat := t.start + t.chars.length

/-- A token between others that stands for nothing. -/
def isSpacing (t : Token) : Bool := t.kind == .blank || t.kind == .comment || t.kind == .newline

/-- A token that belongs to a word without quotes. -/
def isBare (t : Token) : Bool := t.kind == .dot || t.kind == .atom

/-! ## Lengths -/

/-- The length of a literal string behind its opening quote. -/
def literalLength : List Char → Nat
  | [] => 0
  | c :: s => if c = '\'' then 1 else if c = '\n' then 0 else literalLength s + 1

/-- The length of a basic string behind its opening quote. An escaped quote does not end it. -/
def basicLength : List Char → Nat
  | [] => 0
  | [c] => if c = '\n' then 0 else 1
  | c :: d :: s =>
    if c = '"' then 1
    else if c = '\n' then 0
    else if c = '\\' ∧ (d = '\\' ∨ d = '"') then basicLength s + 2
    else basicLength (d :: s) + 1

/-- The number of further quotes, of at most two, that belong to the end of a long string. -/
def extraQuotes (quote : Char) (s : List Char) : Nat := ((s.take 2).takeWhile (· = quote)).length

/-- The length of a long literal string behind its opening quotes. -/
def longLiteralLength : List Char → Nat
  | '\'' :: '\'' :: '\'' :: s => extraQuotes '\'' s + 3
  | _ :: s => longLiteralLength s + 1
  | [] => 0

/-- The length of a long basic string behind its opening quotes. -/
def longBasicLength : List Char → Nat
  | '"' :: '"' :: '"' :: s => extraQuotes '"' s + 3
  | '\\' :: '\\' :: s => longBasicLength s + 2
  | '\\' :: '"' :: s => longBasicLength s + 2
  | _ :: s => longBasicLength s + 1
  | [] => 0

/-- The length of a comment behind its first character. -/
def commentLength (s : List Char) : Nat := (s.takeWhile (fun c => c != '\n' && c != '\r')).length

/-- A character between words on a line. -/
def isBlank (c : Char) : Bool := c == ' ' || c == '\t'

/-- A character that ends an atom. Quotes do not, since the opening one may have been forgotten. -/
def endsAtom (c : Char) : Bool := ".=,[]\x7b\x7d \t#\r\n".toList.contains c

/-- The kind of the token that a character starts, and the number of further characters in it. -/
def scan (c : Char) (s : List Char) : Kind × Nat :=
  if c = '.' then (.dot, 0)
  else if c = '=' then (.equals, 0)
  else if c = ',' then (.comma, 0)
  else if c = '[' then (.openBracket, 0)
  else if c = ']' then (.closeBracket, 0)
  else if c = '\x7b' then (.openBrace, 0)
  else if c = '\x7d' then (.closeBrace, 0)
  else if isBlank c then (.blank, (s.takeWhile isBlank).length)
  else if c = '#' then (.comment, commentLength s)
  else if c = '\n' then (.newline, 0)
  else if c = '\r' then (.newline, if s.head? = some '\n' then 1 else 0)
  else if c = '\'' then
    match s with
    | '\'' :: '\'' :: t => (.string .longLiteral, longLiteralLength t + 2)
    | _ => (.string .literal, literalLength s)
  else if c = '"' then
    match s with
    | '"' :: '"' :: t => (.string .longBasic, longBasicLength t + 2)
    | _ => (.string .basic, basicLength s)
  else (.atom, (s.takeWhile (fun d => !endsAtom d)).length)

/-- The tokens of a text that has `start` characters before it. -/
def tokensFrom (start : Nat) : List Char → List Token
  | [] => [⟨.finish, start, []⟩]
  | c :: s =>
    let next := scan c s
    let token : Token := ⟨next.1, start, c :: s.take next.2⟩
    token :: tokensFrom token.stop (s.drop next.2)
termination_by s => s.length
decreasing_by simp only [List.length_drop, List.length_cons]; omega

/-- The tokens of a document. The last one is its end. -/
def tokens (s : List Char) : List Token := tokensFrom 0 s

end Token

end ClarityCheck.Toml
