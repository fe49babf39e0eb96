import ClarityCheck.Toml.Fault
import ClarityCheck.Toml.Token

/-!
# Expressions of TOML

A document is a sequence of expressions: headers of tables, and keys with values. This module finds
them among the tokens and leaves words as they are written. A key or value that is missing where a
document can still be understood becomes an empty word, which is a fault of its own later on.
-/

namespace ClarityCheck.Toml

/-- A part of a key, or a value other than an array or a table, as it is written. -/
structure Word where
  quote : Option Quote
  start : Nat
  chars : List Char
  deriving DecidableEq, Repr

namespace Word

/-- The number of characters up to the end of a word. -/
def stop (w : Word) : Nat := w.start + w.chars.length

/-- The empty word at a position. -/
def missing (position : Nat) : Word := ⟨none, position, []⟩

/-- A fault that marks a word. -/
def fault (w : Word) (message : String) : Fault := ⟨message, w.start, w.stop⟩

/-- The word that a token writes. -/
def ofToken? (t : Token) : Option Word :=
  match t.kind with
  | .string q => some ⟨some q, t.start, t.chars⟩
  | .atom => some ⟨none, t.start, t.chars⟩
  | _ => none

end Word

/-- A value as it is written. The entries of a table in braces are keys with values. -/
inductive Literal where
  | word (w : Word)
  | array (items : List Literal)
  | table (entries : List (List Word × Literal))
  deriving Repr

/-- An expression. A key has at least one part. -/
inductive Expression where
  | entry (key : List Word) (value : Literal)
  /-- The header of a table, or of one more table in an array of tables. -/
  | header (many : Bool) (key : List Word)
  deriving Repr

/-- What follows a part of a document, or a fault. -/
abbrev Reads (α : Type) := Except Fault (α × List Token)

namespace Expression

/-- The tokens without blanks in front. -/
def skipBlank (ts : List Token) : List Token := ts.dropWhile (·.kind = .blank)

/-! ## Keys -/

/-- The further parts of a key. `wanted` tells whether a part has to come next, as behind a dot. The
last answer tells whether the key ends in a part and not in a dot. -/
def keyRest (wanted : Bool) : List Token → List Word × Bool × List Token
  | [] => ([], !wanted, [])
  | t :: ts =>
    if t.kind = .blank then keyRest wanted ts
    else if wanted then
      match Word.ofToken? t with
      | some w =>
        let (ws, whole, rest) := keyRest false ts
        (w :: ws, whole, rest)
      | none =>
        if t.kind = .dot then
          let (ws, whole, rest) := keyRest true ts
          (.missing t.start :: ws, whole, rest)
        else ([.missing t.start], false, t :: ts)
    else if t.kind = .dot then keyRest true ts
    else ([], true, t :: ts)

/-! ## Line ends -/

/-- A character that comments may hold. -/
def isCommentChar (c : Char) : Bool := c == '\t' || (0x20 ≤ c.toNat && c.toNat != 0x7F)

/-- The first fault of a comment or a line end. -/
def spacingFault? (t : Token) : Option Fault :=
  match t.kind with
  | .comment =>
    match (t.chars.drop 1).dropWhile isCommentChar with
    | [] => none
    | rest => some (.between
        (Fault.expecting "invalid comment character" ["printable characters"])
        (t.stop - rest.length))
  | .newline =>
    if t.chars = ['\r'] then
      some (.between
        (Fault.expecting "carriage return must be followed by newline" ["newline"]) t.stop)
    else none
  | _ => none

/-- The tokens behind the end of a line, which has to come next. -/
def endLine : List Token → Except Fault (List Token)
  | [] => .ok []
  | t :: ts =>
    match spacingFault? t with
    | some f => .error f
    | none =>
      match t.kind with
      | .blank | .comment => endLine ts
      | .newline => .ok ts
      | .finish => .ok (t :: ts)
      | _ => .error (.between
          (Fault.expecting "unexpected key or value" ["newline", Fault.piece "#"]) t.start)

/-- The tokens behind the next line end. -/
def skipLine : List Token → Except Fault (List Token)
  | [] => .ok []
  | t :: ts =>
    match spacingFault? t with
    | some f => .error f
    | none =>
      if t.kind = .newline then .ok ts else if t.kind = .finish then .ok (t :: ts) else skipLine ts

/-! ## Values -/

/-- The tokens that belong to a word without quotes, and what follows them. Blanks inside a word
belong to it, since quotes may have been forgotten. -/
def cutBare : List Token → List Token × List Token
  | t :: u :: ts =>
    if t.isBare then
      let (word, rest) := cutBare (u :: ts)
      (t :: word, rest)
    else if t.kind = .blank ∧ u.isBare then
      let (word, rest) := cutBare ts
      (t :: u :: word, rest)
    else ([], t :: u :: ts)
  | [t] => if t.isBare then ([t], []) else ([], [t])
  | [] => ([], [])

/-- What comes next inside an array or a table in braces. Where a key, item or comma comes next, the
end may come as well. -/
inductive Place where
  | key
  | equals
  | value
  | comma
  deriving DecidableEq, Repr

/-- What may come next, as faults describe it. -/
def Place.expected : Place → List String
  | .key => ["key"]
  | .equals => [Fault.piece "="]
  | .value => ["value"]
  | .comma => [Fault.piece ","]

/-- The greatest number of arrays and tables in braces inside each other. -/
def depthLimit : Nat := 80

/-- A fault in front of a token. -/
def unexpected (what : String) (expected : List String) (t : Token) : Fault :=
  .between (Fault.expecting what expected) t.start

/-- The fault of an array or table that is not closed; `ending` is where the last token of the
document ends that stands for something. -/
def unclosed (what closing : String) (ending : Nat) : Fault :=
  .between (Fault.expecting ("unclosed " ++ what) [Fault.piece closing]) ending

/-- The fault of an array or a table that is too deep inside others. -/
def tooDeep (t : Token) : Fault :=
  ⟨"cannot recurse further; max recursion depth met", t.start, t.stop⟩

/-- What is wrong with a token that starts a value inside a table in braces when no value comes
next. -/
def strayOpening : Place → String
  | .equals => "missing assignment between key-value pairs"
  | _ => "missing key for inline table element"

mutual

/-- Reads a value that is inside `depth` arrays and tables. `fuel` bounds the number of tokens that
are looked at. -/
def readValue (ending fuel depth : Nat) (ts : List Token) : Reads Literal :=
  match fuel, ts with
  | 0, _ | _, [] => .ok (.word (.missing 0), ts)
  | fuel + 1, t :: rest =>
    match t.kind with
    | .comment | .comma | .newline | .finish => .ok (.word (.missing t.start), t :: rest)
    | .blank => readValue ending fuel depth rest
    | .equals => .error (unexpected ("extra " ++ Fault.piece "=") [] t)
    | .openBrace =>
      if depth = depthLimit then .error (tooDeep t)
      else readEntries ending fuel (depth + 1) .key [] [] rest
    | .closeBrace => .error (unexpected "missing inline table opening" [Fault.piece "\x7b"] t)
    | .openBracket =>
      if depth = depthLimit then .error (tooDeep t)
      else readItems ending fuel (depth + 1) .value [] rest
    | .closeBracket => .error (unexpected "missing array opening" [Fault.piece "["] t)
    | .string q => .ok (.word ⟨some q, t.start, t.chars⟩, rest)
    | .dot | .atom =>
      let (word, rest) := cutBare (t :: rest)
      .ok (.word ⟨none, t.start, word.flatMap (·.chars)⟩, rest)

/-- Reads the items of an array, of which `before` have been read in reverse order. -/
def readItems (ending fuel depth : Nat) (place : Place) (before : List Literal) (ts : List Token) :
    Reads Literal :=
  match fuel, ts with
  | 0, _ | _, [] => .ok (.array before.reverse, ts)
  | fuel + 1, t :: rest =>
    match spacingFault? t with
    | some f => .error f
    | none =>
      match t.kind with
      | .blank | .comment | .newline => readItems ending fuel depth place before rest
      | .finish => .error (unclosed "array" "]" ending)
      | .comma =>
        if place = .comma then readItems ending fuel depth .value before rest
        else .error (unexpected "extra comma in array" place.expected t)
      | .equals => .error
          (unexpected ("unexpected " ++ Fault.piece "=" ++ " in array")
            ["value", Fault.piece "]"] t)
      | .closeBracket => .ok (.array before.reverse, rest)
      | .closeBrace => .error (unexpected "invalid array element" place.expected t)
      | _ =>
        if place = .comma then
          .error (unexpected "missing comma between array elements" place.expected t)
        else
          match readValue ending fuel depth (t :: rest) with
          | .error f => .error f
          | .ok (v, rest) => readItems ending fuel depth .comma (v :: before) rest

/-- Reads the entries of a table in braces, of which `before` have been read in reverse order. `key`
is the key whose value comes next. -/
def readEntries (ending fuel depth : Nat) (place : Place) (key : List Word)
    (before : List (List Word × Literal)) (ts : List Token) : Reads Literal :=
  match fuel, ts with
  | 0, _ | _, [] => .ok (.table before.reverse, ts)
  | fuel + 1, t :: rest =>
    match spacingFault? t with
    | some f => .error f
    | none =>
      match t.kind with
      | .blank | .comment | .newline => readEntries ending fuel depth place key before rest
      | .finish => .error (unclosed "inline table" "\x7d" ending)
      | .comma =>
        if place = .comma then readEntries ending fuel depth .key [] before rest
        else .error (unexpected "extra comma in inline table" place.expected t)
      | .equals =>
        match place with
        | .key => readEntries ending fuel depth .value [.missing t.start] before rest
        | .equals => readEntries ending fuel depth .value key before rest
        | _ => .error
          (unexpected "extra assignment between key-value pairs" place.expected t)
      | .closeBrace =>
        match place with
        | .equals => .error
          (unexpected "missing assignment between key-value pairs" place.expected t)
        | .value => .ok (.table ((key, .word (.missing t.start)) :: before).reverse, rest)
        | _ => .ok (.table before.reverse, rest)
      | .closeBracket => .error (unexpected "invalid inline table element" place.expected t)
      | .openBrace | .openBracket =>
        if place = .value then
          match readValue ending fuel depth (t :: rest) with
          | .error f => .error f
          | .ok (v, rest) => readEntries ending fuel depth .comma [] ((key, v) :: before) rest
        else .error (unexpected (strayOpening place) place.expected t)
      | .dot | .atom | .string _ =>
        match place with
        | .key =>
          let (key, _, rest) := keyRest true (t :: rest)
          readEntries ending fuel depth .equals key before rest
        | .equals => .error
          (unexpected "missing assignment between key-value pairs" place.expected t)
        | .value =>
          match readValue ending fuel depth (t :: rest) with
          | .error f => .error f
          | .ok (v, rest) => readEntries ending fuel depth .comma [] ((key, v) :: before) rest
        | .comma => .error
          (unexpected "missing comma between key-value pairs" place.expected t)

end

/-! ## Expressions -/

/-- Reads what follows the equals sign behind a key. -/
def readEntry (ending fuel : Nat) (key : List Word) (ts : List Token) : Reads Expression :=
  match readValue ending fuel 0 (skipBlank ts) with
  | .error f => .error f
  | .ok (v, ts) => (endLine ts).map (.entry key v, ·)

/-- Reads what follows a key; `what` says what is wrong when it is no equals sign. -/
def readAfterKey (ending fuel : Nat) (what : String) (key : List Word) (ts : List Token) :
    Reads Expression :=
  match skipBlank ts with
  | [] => .ok (.entry key (.word (.missing 0)), [])
  | t :: rest =>
    if t.kind = .equals then readEntry ending fuel key rest
    else .error (unexpected what [Fault.piece "="] t)

/-- Reads the header of a table behind its opening brackets. -/
def readHeader (many : Bool) (opening : Token) (ts : List Token) : Reads Expression :=
  let (key, whole, rest) := keyRest true ts
  let header := Expression.header many key
  let last := (key.getLast?.map Word.stop).getD opening.stop
  match rest with
  | c :: rest =>
    if c.kind = .closeBracket then
      if many then
        match rest with
        | d :: rest =>
          if d.kind = .closeBracket then (endLine rest).map (header, ·)
          else .error (.between (Fault.expecting "unclosed array table" [Fault.piece "]"]) c.stop)
        | [] => .ok (header, [])
      else (endLine rest).map (header, ·)
    else if whole then
      let (what, bracket) :=
        if many then ("unclosed array table", "]]") else ("unclosed table", "]")
      .error (.between (Fault.expecting what [Fault.piece bracket]) last)
    else (skipLine (c :: rest)).map (header, ·)
  | [] => .ok (header, [])

/-- Reads the expressions of a document. `fuel` bounds the number of tokens that are looked at. -/
def readAllWithin (ending fuel : Nat) (ts : List Token) : Except Fault (List Expression) :=
  match fuel, ts with
  | 0, _ | _, [] => .ok []
  | fuel + 1, t :: rest =>
    let go : Reads Expression → Except Fault (List Expression)
      | .error f => .error f
      | .ok (e, rest) => (readAllWithin ending fuel rest).map (e :: ·)
    match spacingFault? t with
    | some f => .error f
    | none =>
      match t.kind with
      | .finish => .ok []
      | .blank | .newline | .comment => readAllWithin ending fuel rest
      | .openBracket =>
        match rest with
        | second :: inner =>
          if second.kind = .openBracket then go (readHeader true second inner)
          else go (readHeader false t rest)
        | [] => .ok []
      | .closeBracket => .error (unexpected "missing table open" [Fault.piece "["] t)
      | .comma | .openBrace | .closeBrace =>
        .error (unexpected "invalid key-value pair" ["key"] t)
      | .equals => go (readEntry ending fuel [.missing t.start] rest)
      | .dot =>
        let (more, _, after) := keyRest false (t :: rest)
        go (readAfterKey ending fuel "missing value for key" (.missing t.start :: more) after)
      | .string _ | .atom =>
        let (key, _, after) := keyRest true (t :: rest)
        go (readAfterKey ending fuel "key with no value" key after)

/-- Where the last token ends that stands for something. -/
def ending (ts : List Token) : Nat :=
  ((ts.filter (fun t => !t.isSpacing && t.kind != .finish)).getLast?.map Token.stop).getD 0

/-- The expressions that tokens write. -/
def ofTokens (ts : List Token) : Except Fault (List Expression) :=
  readAllWithin (ending ts) (2 * ts.length + 2) ts

end Expression

/-- The tokens of a document. A byte order mark in front is left out. -/
def documentTokens : List Char → List Token
  | '\uFEFF' :: s => Token.tokensFrom 1 s
  | s => Token.tokens s

end ClarityCheck.Toml
