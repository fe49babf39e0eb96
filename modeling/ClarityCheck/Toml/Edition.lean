import ClarityCheck.Toml.Document

/-!
# The first edition of TOML

The first edition of the format allows less than later ones: times have seconds, a table in braces
stays on its line and has no comma behind its last entry, and strings cannot write characters by two
hexadecimal digits. A document that is understood is asked for its first fault by these rules, which
its tokens show.
-/

namespace ClarityCheck.Toml.Edition

/-! ## Tables in braces -/

/-- The fault of a table in braces that does not end where it has to. -/
def openTable (t : Token) : Fault :=
  ⟨"invalid inline table\nexpected " ++ Fault.piece "\x7d", t.start, t.start + 1⟩

/-- The tokens behind a comma show another entry on the same line. -/
def entryFollows (ts : List Token) : Bool :=
  match Expression.skipBlank ts with
  | [] => false
  | t :: _ => !t.isSpacing && t.kind != .closeBrace

/-! ## Times -/

/-- The number of characters of a time in front of a text whose seconds are missing. -/
def shortTime? (s : List Char) : Option Nat :=
  match Moment.Piece.ofText s with
  | .digits h :: .colon :: .digits m :: rest =>
    if rest.head? = some .colon then none else some (h.length + 1 + m.length)
  | _ => none

/-- The fault of a time without seconds in an atom. -/
def shortTimeFault? (t : Token) : Option Fault :=
  match shortTime? t.chars with
  | some n => some (.between "invalid time" (t.start + n))
  | none =>
    match Moment.Piece.ofText t.chars with
    | .digits _ :: .dash :: .digits _ :: .dash :: .digits _ :: .between :: _ =>
      (shortTime? (t.chars.drop 11)).map fun n => .between "invalid date-time" (t.start + 11 + n)
    | _ => none

/-! ## Strings -/

/-- The characters behind a backslash, as faults describe them. -/
def escapes : String :=
  ", ".intercalate (["b", "f", "n", "r", "t", "u", "U", "\\", "\""].map Fault.piece)

/-- The fault of the first escape that is none, in a string from a position on. -/
def escapeFault? (position : Nat) : List Char → Option Fault
  | '\\' :: c :: s =>
    if c = 'e' ∨ c = 'x' then
      some ⟨"invalid escape sequence\nexpected " ++ escapes, position + 2, position + 3⟩
    else escapeFault? (position + 2) s
  | _ :: s => escapeFault? (position + 1) s
  | [] => none

/-! ## Documents -/

/-- The greatest number of arrays and tables in braces inside each other. -/
def depthLimit : Nat := 79

/-- The first fault of tokens inside arrays and tables in braces, the innermost first. `isDate`
tells whether a date and a space are before the tokens. -/
def faultWithin? (inside : List Token.Kind) (isDate : Bool) : List Token → Option Fault
  | [] => none
  | t :: ts =>
    let inBraces := inside.head? == some .openBrace
    match t.kind with
    | .openBrace | .openBracket =>
      if inside.length = depthLimit then some ⟨"recursion limit exceeded", t.start, t.start + 1⟩
      else faultWithin? (t.kind :: inside) false ts
    | .closeBrace | .closeBracket => faultWithin? inside.tail false ts
    | .newline | .comment =>
      if inBraces then some (openTable t) else faultWithin? inside false ts
    | .comma =>
      if inBraces && !entryFollows ts then some (openTable t) else faultWithin? inside false ts
    | .string .basic | .string .longBasic =>
      match escapeFault? t.start t.chars with
      | some f => some f
      | none => faultWithin? inside false ts
    | .atom =>
      match shortTimeFault? t with
      | some f => some (if isDate then { f with message := "invalid date-time" } else f)
      | none => faultWithin? inside (Moment.refusal? t.chars).isNone ts
    | .blank => faultWithin? inside isDate ts
    | _ => faultWithin? inside false ts

/-- The first fault of a document by the rules of the first edition. -/
def fault? (ts : List Token) : Option Fault := faultWithin? [] false ts

/-- The wording of the first fault of a document by the rules of the first edition. -/
def refusal? (source : String) : Option String :=
  (fault? (documentTokens source.toList)).map (·.text source.toList)

end ClarityCheck.Toml.Edition
