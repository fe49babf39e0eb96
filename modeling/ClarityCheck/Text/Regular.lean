import ClarityCheck.Text.Alphanumeric
import ClarityCheck.Text.Blank

/-!
# Regular expressions

Which texts are regular expressions: literals, classes in brackets, groups, alternatives and
repetitions. Nothing is known about classes and cases beyond ASCII, so what asks for them is refused
unless a mode restricts it to ASCII; and no text may be matched in the middle of a character. The
texts in question have no closing brace, so braces that count repetitions are never complete.
-/

namespace ClarityCheck.Text.Regular

/-- What the letters of a group turn on and off. -/
structure Modes where
  /-- Characters beyond ASCII count for classes and cases. -/
  unicode : Bool := true
  caseless : Bool := false
  /-- Blanks and comments do not count. -/
  verbose : Bool := false
  deriving DecidableEq, Repr

/-- The text without blanks and comments in front, where these do not count. -/
def Modes.skip (m : Modes) : List Char → List Char
  | [] => []
  | c :: s =>
    if !m.verbose then c :: s
    else if isBlank c then m.skip s
    else if c = '#' then skipComment s
    else c :: s
where
  /-- The text behind a comment and the blanks and comments that follow it. -/
  skipComment : List Char → List Char
    | [] => []
    | c :: s => if c = '\n' then m.skip s else skipComment s

/-! ## Escapes -/

/-- What a backslash and what follows it stand for. -/
inductive Escape where
  | literal (c : Char)
  /-- A class of ASCII characters. -/
  | charClass
  /-- A condition on a place. -/
  | place
  deriving DecidableEq, Repr

/-- The value of a hexadecimal digit. -/
def hexValue? (c : Char) : Option Nat :=
  if '0' ≤ c ∧ c ≤ '9' then some (c.toNat - 0x30)
  else if 'a' ≤ c ∧ c ≤ 'f' then some (c.toNat - 0x57)
  else if 'A' ≤ c ∧ c ≤ 'F' then some (c.toNat - 0x37)
  else none

/-- Reads a number of hexadecimal digits onto a value. -/
def readHex? : Nat → Nat → List Char → Option (Nat × List Char)
  | 0, n, s => some (n, s)
  | _ + 1, _, [] => none
  | count + 1, n, c :: s =>
    match hexValue? c with
    | some d => readHex? count (n * 16 + d) s
    | none => none

/-- The character of a code point with a number of digits. -/
def readCode? (count : Nat) (s : List Char) : Option (Char × List Char) :=
  match readHex? count 0 s with
  | some (n, rest) => if n.isValidChar then some (Char.ofNat n, rest) else none
  | none => none

/-- Reads what follows a backslash. -/
def readEscape? (m : Modes) : List Char → Option (Escape × List Char)
  | [] => none
  | c :: s =>
    if c = 'x' then
      match readCode? 2 s with
      | some (d, rest) =>
        if !m.unicode && 0x80 ≤ d.toNat then none else some (.literal d, rest)
      | none => none
    else if c = 'u' then (readCode? 4 s).map fun p => (.literal p.1, p.2)
    else if c = 'U' then (readCode? 8 s).map fun p => (.literal p.1, p.2)
    else if "dsw".toList.contains c then if m.unicode then none else some (.charClass, s)
    else if "bB<>".toList.contains c then if m.unicode then none else some (.place, s)
    else if c = 'A' ∨ c = 'z' then some (.place, s)
    else if "aftnrv".toList.contains c then some (.literal c, s)
    else if c.toNat < 0x80 ∧ !c.isAlphanum then some (.literal c, s)
    else none

/-- A literal outside of brackets may stand for itself. -/
def isLiteral (m : Modes) (c : Char) : Bool := !m.caseless || (!m.unicode && c.toNat < 0x80)

/-! ## Classes in brackets -/

/-- The names of the classes of ASCII characters. -/
def classNames : List String :=
  ["alnum", "alpha", "ascii", "blank", "cntrl", "digit", "graph", "lower", "print", "punct",
    "space", "upper", "word", "xdigit"]

/-- Reads a class of ASCII characters behind its opening bracket. The answer tells whether it stands
for the characters outside of it. -/
def readNamed? : List Char → Option (Bool × List Char)
  | ':' :: s =>
    let negated := s.head? == some '^'
    let s := if negated then s.tail else s
    match s.dropWhile Char.isLower with
    | ':' :: ']' :: rest =>
      if classNames.contains (String.ofList (s.takeWhile Char.isLower)) then some (negated, rest)
      else none
    | _ => none
  | _ => none

/-- Reads an item of a class, a character or a class. -/
def readItem? (m : Modes) : List Char → Option (Escape × List Char)
  | [] => none
  | '\\' :: s => readEscape? m s
  | c :: s => some (.literal c, s)

/-- Characters may be items of a class. -/
def isItem (m : Modes) : Escape → Bool
  | .literal c => m.unicode || c.toNat < 0x80
  | .charClass => true
  | .place => false

/-- Reads an item of a class or a range from one to another. -/
def readRange? (m : Modes) (s : List Char) : Option (List Char) :=
  match readItem? m s with
  | none => none
  | some (first, rest) =>
    if !isItem m first then none
    else
      match m.skip rest with
      | '-' :: r =>
        match m.skip r with
        | ']' :: _ | '-' :: _ => some ('-' :: r)
        | behind =>
          match readItem? m behind, first with
          | some (.literal b, rest), .literal a =>
            if isItem m (.literal b) ∧ a ≤ b then some rest else none
          | _, _ => none
      | rest => some rest

/-- The text behind the opening bracket of a class and the items that have to come first. -/
def openClass? (m : Modes) (s : List Char) : Option (List Char) :=
  let s := m.skip s
  let negated := s.head? == some '^'
  let inside := m.skip (if negated then s.tail else s)
  let items := inside.dropWhile (· == '-')
  if negated && !m.unicode then none
  else if items.length < inside.length then some (m.skip items)
  else
    match items with
    | ']' :: rest => some (m.skip rest)
    | items => some items

/-- Reads a class behind its first items, inside `depth` brackets. `fuel` bounds the number of
items. -/
def readClass? (m : Modes) : (fuel depth : Nat) → List Char → Option (List Char)
  | 0, _, _ => none
  | fuel + 1, depth, s =>
    match m.skip s with
    | [] => none
    | '[' :: rest =>
      match readNamed? rest with
      | some (negated, rest) =>
        if negated && !m.unicode then none else readClass? m fuel depth rest
      | none =>
        match openClass? m rest with
        | some rest => readClass? m fuel (depth + 1) rest
        | none => none
    | ']' :: rest => if depth ≤ 1 then some rest else readClass? m fuel (depth - 1) rest
    | '&' :: '&' :: rest | '-' :: '-' :: rest | '~' :: '~' :: rest => readClass? m fuel depth rest
    | s =>
      match readRange? m s with
      | some rest => readClass? m fuel depth rest
      | none => none

/-! ## Groups -/

/-- The letters of a group. -/
def isModeLetter (c : Char) : Bool := "imsUuRx".toList.contains c

/-- Turns a mode on or off. -/
def Modes.set (m : Modes) (c : Char) (on : Bool) : Modes :=
  if c = 'i' then { m with caseless := on }
  else if c = 'u' then { m with unicode := on }
  else if c = 'x' then { m with verbose := on }
  else m

/-- Reads the letters of a group, up to the colon or parenthesis behind them. `seen` are the letters
and the dash so far. -/
def readModes? (m : Modes) (seen : List Char) : List Char → Option (Modes × Char × List Char)
  | [] => none
  | c :: s =>
    if c = ':' ∨ c = ')' then
      if seen.getLast? = some '-' ∨ (c = ')' ∧ seen = []) then none else some (m, c, s)
    else if seen.contains c then none
    else if c = '-' then readModes? m (seen ++ [c]) s
    else if isModeLetter c then readModes? (m.set c (!seen.contains '-')) (seen ++ [c]) s
    else none

/-- A character of the name of a group. -/
def isNameChar (first : Bool) (c : Char) : Bool :=
  c == '_' || (isAlphanumeric c && !(first && c.isDigit))
    || (!first && ".[]".toList.contains c)

/-- Reads the name of a group up to the bracket behind it. -/
def readName? (s : List Char) : Option (List Char × List Char) :=
  match s.takeWhile (· ≠ '>'), s.dropWhile (· ≠ '>') with
  | c :: name, _ :: rest =>
    if isNameChar true c && name.all (isNameChar false) then some (c :: name, rest) else none
  | _, _ => none

/-! ## Expressions -/

/-- An expression up to some character. -/
structure Progress where
  modes : Modes := {}
  /-- There is something that may be repeated. -/
  operand : Bool := false
  /-- The modes outside of the groups that are open, the innermost group first. -/
  outside : List Modes := []
  /-- The names of groups. -/
  names : List (List Char) := []
  deriving DecidableEq, Repr

namespace Progress

/-- Opens a group. -/
def opened (p : Progress) (modes : Modes) : Progress :=
  { p with modes, operand := false, outside := p.modes :: p.outside }

/-- Reads what follows an opening parenthesis. -/
def group? (p : Progress) (s : List Char) : Option (Progress × List Char) :=
  match p.modes.skip s with
  | '?' :: '=' :: _ | '?' :: '!' :: _ | '?' :: '<' :: '=' :: _ | '?' :: '<' :: '!' :: _ => none
  | '?' :: 'P' :: '<' :: s | '?' :: '<' :: s =>
    match readName? s with
    | some (name, rest) =>
      if name ∈ p.names then none
      else some ({ p.opened p.modes with names := name :: p.names }, rest)
    | none => none
  | '?' :: s =>
    match readModes? p.modes [] s with
    | some (modes, ':', rest) => some (p.opened modes, rest)
    | some (modes, _, rest) => some ({ p with modes, operand := false }, rest)
    | none => none
  | s => some (p.opened p.modes, s)

/-- Reads one more piece, which a character starts. -/
def step? (p : Progress) (c : Char) (s : List Char) : Option (Progress × List Char) :=
  let m := p.modes
  let done (holds : Bool) (rest : List Char) : Option (Progress × List Char) :=
    if holds then some ({ p with operand := true }, rest) else none
  match c with
  | '(' => p.group? s
  | ')' =>
    match p.outside with
    | [] => none
    | modes :: outside => some ({ p with modes, outside, operand := true }, s)
  | '|' => some ({ p with operand := false }, s)
  | '*' | '+' | '?' => done p.operand (if s.head? = some '?' then s.tail else s)
  | '\x7b' => none
  | '.' => done m.unicode s
  | '^' | '$' => done true s
  | '[' =>
    if m.caseless && m.unicode then none
    else
      match openClass? m s with
      | some rest => (readClass? m (rest.length + 1) 1 rest).bind (done true)
      | none => none
  | '\\' =>
    match readEscape? m s with
    | some (.literal d, rest) => done (isLiteral m d) rest
    | some (_, rest) => done true rest
    | none => none
  | c => done (isLiteral m c) s

/-- Reads to the end. `fuel` bounds the number of pieces. -/
def isComplete : (fuel : Nat) → Progress → List Char → Bool
  | 0, _, _ => false
  | fuel + 1, p, s =>
    match p.modes.skip s with
    | [] => p.outside.isEmpty
    | c :: s =>
      match p.step? c s with
      | some (p, rest) => isComplete fuel p rest
      | none => false

end Progress

/-- The text is a regular expression. -/
def isExpression (s : List Char) : Bool := Progress.isComplete (s.length + 1) {} s

end ClarityCheck.Text.Regular
