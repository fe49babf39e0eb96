import ClarityCheck.Host.Shell.Script

/-!
# The tokens of a script

Words, operators and the signs of redirections, read from the front of a text. Words hold scripts,
so that the readers of words take the reader of scripts as an argument.

Every reader moves a cursor. The texts that redirections announce follow at the end of the line; the
cursor keeps them under their numbers.
-/

namespace ClarityCheck.Host.Shell

/-- Why a script cannot be read. -/
structure Problem where
  line : Nat
  text : String
  deriving DecidableEq, Repr

/-- A token of a script. -/
inductive Token where
  | word (w : Word)
  | operator (name : String)
  | redirect (stream : Nat) (sign : String)
  | newline
  /-- The end of the text. -/
  | finish

/-- A text that a redirection announces: it ends at a line that holds only its delimiter. -/
structure Announced where
  number : Nat
  delimiter : Raw
  /-- Nothing in the text is expanded. -/
  literal : Bool
  /-- Tabs at the front of its lines are left out. -/
  stripsTabs : Bool
  deriving DecidableEq, Repr

/-- Where a reader stands. -/
structure Cursor where
  text : Raw
  line : Nat
  /-- A token that has been read already. -/
  ahead : Option Token
  announced : List Announced
  documents : List (Nat × Word)
  /-- The words that stand for other texts at the place of a command. -/
  aliases : List (Raw × Raw)

/-- A reader moves a cursor, unless it meets a problem. -/
abbrev Reader (α : Type) := StateT Cursor (Except Problem) α

namespace Reader

/-- A problem at the line where the cursor stands. -/
def fail {α : Type} (text : String) : Reader α := fun c => .error ⟨c.line, text⟩

/-- Looks at the text in front of the cursor. -/
def rest : Reader Raw := fun c => .ok (c.text, c)

/-- Goes on behind so many characters. -/
def skip (n : Nat) : Reader Unit := fun c =>
  .ok ((), { c with text := c.text.drop n, line := c.line + (c.text.take n).count '\n' })

end Reader

namespace Token

/-! ## Characters -/

/-- A character between words. -/
def isBlank (c : Char) : Bool := c == ' ' || c == '\t'

/-- A character that ends a word. -/
def isMeta (c : Char) : Bool := isBlank c || c == '\n' || ";&|<>()".toList.contains c

/-- A character that a name may start with. -/
def isNameStart (c : Char) : Bool := c.isAlpha || c == '_'

/-- A character of a name. -/
def isNameChar (c : Char) : Bool := c.isAlphanum || c == '_'

/-- A parameter whose name is a single sign. -/
def isSpecial (c : Char) : Bool := "@*#?$!-".toList.contains c || c.isDigit

/-! ## Parameters -/

/-- Cuts the name of a parameter. -/
def cutName? (s : Raw) : Option (Raw × Raw) :=
  match s with
  | [] => none
  | c :: r =>
    if isNameStart c then some (s.takeWhile isNameChar, s.dropWhile isNameChar)
    else if c.isDigit then some (s.takeWhile Char.isDigit, s.dropWhile Char.isDigit)
    else if isSpecial c then some ([c], r)
    else none

/-- Cuts the name of a parameter whose length is asked for, and says whether the braces end behind
it. -/
def cutMeasured? (s : Raw) : Option (Raw × Bool × Raw) :=
  match s with
  | '#' :: c :: r =>
    if isNameChar c then
      (cutName? (c :: r)).map fun p => (p.1, p.2.head? == some '\x7d', p.2)
    else if isSpecial c && r.head? == some '\x7d' then some ([c], true, r)
    else none
  | _ => none

/-- Cuts the sign that says what becomes of a parameter. The use is given as a function of the word
behind the sign, together with whether that word is a pattern. -/
def cutUse (s : Raw) : (Word → Use) × Bool × Raw :=
  let rule (alsoEmpty : Bool) (s : Raw) : (Word → Use) × Bool × Raw :=
    match s with
    | '-' :: r => (.orElse alsoEmpty, false, r)
    | '=' :: r => (.orAssign alsoEmpty, false, r)
    | '?' :: r => (.orFail alsoEmpty, false, r)
    | '+' :: r => (.andThen alsoEmpty, false, r)
    | r => (fun _ => .unknown, false, r)
  match s with
  | '\x7d' :: _ => (fun _ => .value, false, s)
  | '%' :: '%' :: r => (.trim true true, true, r)
  | '%' :: r => (.trim true false, true, r)
  | '#' :: '#' :: r => (.trim false true, true, r)
  | '#' :: r => (.trim false false, true, r)
  | ':' :: r => rule true r
  | r => rule false r

/-! ## Names of tokens -/

/-- A word as it reads when nothing in it is quoted or expanded. -/
def plain? (w : Word) : Option Raw :=
  w.mapM fun
    | .char c false => some c
    | _ => none

/-- The words with a meaning of their own at the place of a command. -/
def keywords : List String :=
  ["if", "then", "else", "elif", "fi", "do", "done", "case", "esac", "while", "until", "for", "in",
    "\x7b", "\x7d", "!"]

/-- The keyword that a token is. -/
def keyword? : Token → Option String
  | .word w => ((plain? w).map String.ofList).filter keywords.contains
  | _ => none

/-- What a message calls a token. -/
def name (t : Token) : String :=
  match t, t.keyword? with
  | _, some k => "\"" ++ k ++ "\""
  | .word _, none => "word"
  | .operator o, _ => "\"" ++ o ++ "\""
  | .redirect .., _ => "redirection"
  | .newline, _ => "newline"
  | .finish, _ => "end of file"

/-- A token is not what is needed. -/
def unexpected {α : Type} (t : Token) (wanted : Option String) : Reader α :=
  Reader.fail (t.name ++ " unexpected" ++ match wanted with
    | some w => " (expecting " ++ w ++ ")"
    | none => "")

/-- Takes the parenthesis that a list of commands has stopped at. -/
def closeParenthesis : Reader Unit := fun c =>
  match c.ahead with
  | some (.operator ")") => .ok ((), { c with ahead := none })
  | t => unexpected (t.getD .finish) (some "\")\"") c

/-! ## Words -/

/-- What surrounds a character of a word. -/
inductive Mode where
  | plain
  | double
  /-- The lines of a text that a redirection announced. -/
  | document
  /-- An arithmetic expression with so many parentheses open. -/
  | sum (depth : Nat)
  deriving DecidableEq, Repr

/-- Everything is quoted but what is plain. -/
def Mode.isQuoted : Mode → Bool
  | .plain => false
  | _ => true

/-- A backslash takes away the meaning of a character. -/
def Mode.escapes (m : Mode) (inBraces : Bool) (c : Char) : Bool :=
  match m with
  | .plain => true
  | _ => "$\x60\\".toList.contains c || (c == '"' && (m != .document || inBraces))
    || (c == '\x7d' && inBraces)

/-- The problem of a word that the text ends in. -/
def Mode.unfinished (m : Mode) (inBraces : Bool) : Option String :=
  match m with
  | .sum _ => some "Missing '))'"
  | .double => some "Unterminated quoted string"
  | _ => if inBraces then some "Missing '\x7d'" else none

/-- Cuts a script between backquotes, which a backslash keeps from ending. -/
def cutBackquoted (quoted : Bool) : Raw → Option (Raw × Raw)
  | [] => none
  | '\x60' :: s => some ([], s)
  | '\\' :: c :: s =>
    let kept := if "\x60$\\".toList.contains c || (quoted && c == '"') then [c] else ['\\', c]
    (cutBackquoted quoted s).map fun r => (kept ++ r.1, r.2)
  | c :: s => (cutBackquoted quoted s).map fun r => (c :: r.1, r.2)

variable (list : Reader Script)

/-- Reads a script up to the parenthesis that closes it. -/
def substitution (quoted : Bool) : Reader Part := do
  let script ← list
  closeParenthesis
  return .output script quoted

/-- Reads a script between backquotes, which is a text of its own with lines of its own. -/
def backquoted (quoted : Bool) : Reader Part := fun c =>
  match cutBackquoted quoted c.text with
  | none => .error ⟨c.line, "EOF in backquote substitution"⟩
  | some (script, rest) =>
    let line := c.line + (c.text.take (c.text.length - rest.length)).count '\n'
    match list { c with text := script, line := 1, announced := [] } with
    | .error p => .error p
    | .ok (body, d) =>
      .ok (.output body quoted, { c with text := rest, line, documents := d.documents })

/-- Reads the parts of a word up to its end, in at most `fuel` steps. Between braces a word ends at
the brace that closes them, within quotation marks at the second of them. -/
def parts : (fuel : Nat) → Mode → (inBraces : Bool) → Reader Word
  | 0, _, _ => return []
  | fuel + 1, m, inBraces => do
    let more (p : Part) : Reader Word := (p :: ·) <$> parts fuel m inBraces
    let literal (n : Nat) (c : Char) (quoted : Bool) : Reader Word := do
      Reader.skip n
      more (.char c quoted)
    match ← Reader.rest with
    | [] =>
      match m.unfinished inBraces with
      | some problem => Reader.fail problem
      | none => return []
    | '\\' :: '\n' :: _ => Reader.skip 2; parts fuel m inBraces
    | ['\\'] => literal 1 '\\' true
    | '\\' :: c :: _ =>
      if m.escapes inBraces c then literal 2 c true
      else literal 1 '\\' true
    | '$' :: '(' :: '(' :: _ =>
      Reader.skip 3
      let expression ← parts fuel (.sum 0) false
      Reader.skip 2
      more (.sum expression m.isQuoted)
    | '$' :: '(' :: _ =>
      Reader.skip 2
      more (← substitution list m.isQuoted)
    | '$' :: '\x7b' :: s =>
      let close (name : Raw) (rest : Raw) (use : Word → Use) (isPattern : Bool) : Reader Word := do
        Reader.skip (2 + (s.length - rest.length))
        let inner := if isPattern then .plain else match m with
          | .sum _ => .double
          | m => m
        let w ← parts fuel inner true
        Reader.skip 1
        more (.parameter name (use w) m.isQuoted)
      match cutMeasured? s with
      | some (name, true, rest) => close name rest (fun _ => .length) false
      | some (name, false, rest) => close name rest (fun _ => .unknown) false
      | none =>
        match cutName? s with
        | none => close [] s (fun _ => .unknown) false
        | some (name, rest) =>
          let (use, isPattern, rest) := cutUse rest
          close name rest use isPattern
    | '$' :: c :: r =>
      if isNameStart c then
        let name := (c :: r).takeWhile isNameChar
        Reader.skip (1 + name.length)
        more (.parameter name .value m.isQuoted)
      else if isSpecial c then
        Reader.skip 2
        more (.parameter [c] .value m.isQuoted)
      else literal 1 '$' m.isQuoted
    | '\x60' :: _ =>
      Reader.skip 1
      more (← backquoted list m.isQuoted)
    | '\'' :: r =>
      match m with
      | .plain =>
        let inside := r.takeWhile (· ≠ '\'')
        Reader.skip (1 + inside.length)
        if (← Reader.rest).isEmpty then Reader.fail "Unterminated quoted string"
        Reader.skip 1
        let w ← parts fuel m inBraces
        return .mark :: inside.map (fun c => Part.char c true) ++ w
      | _ => literal 1 '\'' true
    | '"' :: _ =>
      match m, inBraces with
      | .plain, _ =>
        Reader.skip 1
        let w ← parts fuel .double false
        Reader.skip 1
        return .mark :: w ++ (← parts fuel m inBraces)
      | .double, false => return []
      | .document, false => literal 1 '"' true
      | .sum _, _ => Reader.skip 1; parts fuel m inBraces
      | _, true => Reader.skip 1; more .mark
    | '\x7d' :: _ => if inBraces then return [] else literal 1 '\x7d' m.isQuoted
    | c :: r =>
      match m with
      | .sum depth =>
        if c = '(' then
          Reader.skip 1
          (.char c true :: ·) <$> parts fuel (.sum (depth + 1)) inBraces
        else if c = ')' then
          match depth with
          | 0 => if r.head? = some ')' then return [] else literal 1 c true
          | depth + 1 =>
            Reader.skip 1
            (.char c true :: ·) <$> parts fuel (.sum depth) inBraces
        else literal 1 c true
      | .plain => if isMeta c && !inBraces then return [] else literal 1 c false
      | _ => literal 1 c true

/-! ## Announced texts -/

/-- The delimiter that a word names, and whether something in it is quoted. -/
def delimiterOf (w : Word) : Raw × Bool :=
  (w.filterMap fun
    | .char c _ => some c
    | _ => none,
   w.any fun
    | .char _ false => false
    | _ => true)

/-- A line goes on behind its end, because a backslash stands there that no other one belongs to. -/
def goesOn (line : Raw) : Bool := (line.reverse.takeWhile (· = '\\')).length % 2 = 1

/-- Cuts the lines of an announced text, in at most `fuel` steps. `whole` tells that a line may be
the last one. The lines are given back with the number of characters they took. -/
def cutLines (a : Announced) : (fuel : Nat) → (whole : Bool) → Raw → Raw × Nat
  | 0, _, _ => ([], 0)
  | _, _, [] => ([], 0)
  | fuel + 1, whole, s =>
    let written := s.takeWhile (· ≠ '\n')
    let line := if a.stripsTabs then written.dropWhile (· = '\t') else written
    let width := written.length + if written.length < s.length then 1 else 0
    if whole ∧ line = a.delimiter then ([], width)
    else
      let (more, n) := cutLines a fuel (a.literal || !goesOn line) (s.drop width)
      (line ++ (if written.length < s.length then ['\n'] else []) ++ more, width + n)

/-- Reads an announced text. -/
def document (a : Announced) : Reader Unit := do
  let (lines, width) := cutLines a ((← Reader.rest).length + 1) true (← Reader.rest)
  let c ← get
  Reader.skip width
  if a.literal then
    modify fun c =>
      { c with documents := (a.number, lines.map fun c => .char c true) :: c.documents }
  else
    let inner := { c with text := lines, announced := [] }
    match (parts list (lines.length + 1) .document false).run inner with
    | .error p => throw p
    | .ok (w, d) => modify fun c => { c with documents := (a.number, w) :: d.documents }

/-- Reads all texts that have been announced. -/
def documents : Reader Unit := do
  let announced := (← get).announced
  modify fun c => { c with announced := [] }
  announced.forM (document list)

/-! ## Tokens -/

/-- The operators, longer ones first. -/
def operators : List String := ["&&", "||", ";;", ";", "&", "|", "(", ")"]

/-- The signs of redirections, longer ones first. -/
def redirections : List String := [">>", ">&", ">|", ">", "<<-", "<<", "<&", "<>", "<"]

/-- The first of several signs that a text begins with. -/
def sign? (signs : List String) (s : Raw) : Option String :=
  signs.find? fun o => o.toList.isPrefixOf s

/-- The stream that a redirection without a number means. -/
def usualStream (sign : String) : Nat := if sign.startsWith ">" then 1 else 0

/-- The sign of a redirection, in front of which a digit may name the stream, and its width. -/
def redirection? (s : Raw) : Option (Nat × String × Nat) :=
  let numbered : Option (Nat × String × Nat) :=
    match s with
    | c :: r =>
      if c.isDigit then (sign? redirections r).map fun o => (c.toNat - 0x30, o, o.length + 1)
      else none
    | [] => none
  numbered.or ((sign? redirections s).map fun o => (usualStream o, o, o.length))

/-- The number of characters before a token: blanks, joined lines and a comment. -/
def gap : Raw → Nat
  | '\\' :: '\n' :: s => gap s + 2
  | '#' :: s => (s.takeWhile (· ≠ '\n')).length + 1
  | c :: s => if isBlank c then gap s + 1 else 0
  | [] => 0

/-- Reads a token. -/
def cut : Reader Token := do
  Reader.skip (gap (← Reader.rest))
  match ← Reader.rest with
  | [] =>
    documents list
    return .finish
  | '\n' :: _ =>
    Reader.skip 1
    documents list
    return .newline
  | s =>
    match sign? operators s, redirection? s with
    | some o, _ => Reader.skip o.length; return .operator o
    | none, some (n, o, width) => Reader.skip width; return .redirect n o
    | none, none => .word <$> parts list (s.length + 1) .plain false

end Token

end ClarityCheck.Host.Shell
