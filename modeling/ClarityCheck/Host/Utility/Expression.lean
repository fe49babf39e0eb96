import ClarityCheck.Host.Shell.Pattern

/-!
# Expressions for texts

An expression describes texts: characters, classes, repetitions, alternatives and groups. It is
written in one of two styles, of which the basic one marks most signs by a backslash. Of all places
where an expression fits a text the first one counts, and there the longest text.
-/

namespace ClarityCheck.Host

/-- A description of texts. -/
inductive Expression where
  | empty
  | one (c : Char)
  | any
  | among (negated : Bool) (members : List Shell.Member)
  | textStart
  | textEnd
  /-- A place where a word starts, ends, or does either or neither. -/
  | wordStart
  | wordEnd
  | wordEdge (wanted : Bool)
  | group (number : Nat) (e : Expression)
  /-- The text that a group fitted. -/
  | again (number : Nat)
  | both (first second : Expression)
  | either (first second : Expression)
  | repeated (least : Nat) (most : Option Nat) (e : Expression)
  deriving Repr

namespace Expression

/-! ## Following -/

/-- Where the reading of a text stands, and the places of the groups that were fitted. -/
structure Trace where
  place : Nat
  groups : List (Nat × Nat × Nat)
  deriving DecidableEq, Repr

/-- A character of a word. -/
def isWordChar (c : Char) : Bool := c.isAlphanum || c == '_'

/-- A word reaches up to a place, and one goes on behind it. -/
def wordsAround (text : Array Char) (place : Nat) : Bool × Bool :=
  (place ≠ 0 && (text[place - 1]?).any isWordChar, (text[place]?).any isWordChar)

/-- Two characters are the same, or the same letter if the case does not count. -/
def sameChar (folded : Bool) (a b : Char) : Bool := a == b || (folded && a.toLower == b.toLower)

/-- A character is one of some members, or its letter in the other case is if the case does not
count. -/
def isAmong (folded : Bool) (members : List Shell.Member) (c : Char) : Bool :=
  members.any fun m => m.holds c || (folded && (m.holds c.toLower || m.holds c.toUpper))

/-- Leaves out each trace that stands where the one before it stands. -/
def withoutTwins : List Trace → List Trace
  | a :: b :: ts =>
    if a.place = b.place then withoutTwins (a :: ts) else a :: withoutTwins (b :: ts)
  | ts => ts
termination_by ts => ts.length

/-- The farthest trace comes first. Of traces at one place the earliest one is kept. -/
def settle (traces : List Trace) : List Trace :=
  withoutTwins (traces.mergeSort fun a b => b.place ≤ a.place)

/-- Goes on behind a character that is accepted. -/
def stepOver (text : Array Char) (accepts : Char → Bool) (t : Trace) : List Trace :=
  if (text[t.place]?).any accepts then [{ t with place := t.place + 1 }] else []

/-- Goes on from a place where something holds. -/
def stay (holds : Bool) (t : Trace) : List Trace := if holds then [t] else []

/-- Goes round a repetition. `once` follows what is repeated, `round` counts the rounds that were
done, and `found` holds the traces at which the repetition may end. -/
def rounds (once : Trace → List Trace) (least : Nat) (most : Option Nat) :
    (fuel round : Nat) → (found traces : List Trace) → List Trace
  | 0, _, found, _ => found
  | fuel + 1, round, found, traces =>
    let found := if least ≤ round then traces ++ found else found
    if traces.isEmpty ∨ most.any (· ≤ round) then found
    else
      let next := settle (traces.flatMap once)
      let next := if least ≤ round then next.filter fun t => !traces.any (·.place == t.place)
        else next
      rounds once least most fuel (round + 1) found next

/-- All the ways to follow an expression from one place on, the longest first. -/
def follow (folded : Bool) (text : Array Char) : Expression → Trace → List Trace
  | .empty, t => [t]
  | .one c, t => stepOver text (sameChar folded c) t
  | .any, t => stepOver text (fun _ => true) t
  | .among negated ms, t => stepOver text (fun c => isAmong folded ms c != negated) t
  | .textStart, t => stay (t.place = 0) t
  | .textEnd, t => stay (t.place = text.size) t
  | .wordStart, t => stay (wordsAround text t.place = (false, true)) t
  | .wordEnd, t => stay (wordsAround text t.place = (true, false)) t
  | .wordEdge wanted, t =>
    let (before, behind) := wordsAround text t.place
    stay ((before != behind) = wanted) t
  | .group n e, t => (follow folded text e t).map fun s =>
      { s with groups := (n, t.place, s.place) :: s.groups.filter (·.1 ≠ n) }
  | .again n, t =>
    match t.groups.lookup n with
    | none => []
    | some (start, stop) =>
      let length := stop - start
      let same := (List.range length).all fun i =>
        match text[start + i]?, text[t.place + i]? with
        | some a, some b => sameChar folded a b
        | _, _ => false
      stay same { t with place := t.place + length }
  | .both a b, t => settle ((follow folded text a t).flatMap (follow folded text b))
  | .either a b, t => settle (follow folded text a t ++ follow folded text b t)
  | .repeated least most e, t =>
    settle (rounds (follow folded text e) least most (text.size + least + 2) 0 [] [t])

/-- A text that an expression fits, by its first place and the trace at its end. -/
structure Fit where
  start : Nat
  trace : Trace
  deriving DecidableEq, Repr

/-- The longest acceptable fit that starts at a place. -/
def fitAt (folded : Bool) (e : Expression) (text : Array Char) (accepts : Fit → Bool)
    (start : Nat) : Option Fit :=
  ((follow folded text e ⟨start, []⟩).map (Fit.mk start)).find? accepts

/-- The first acceptable fit that does not start before a place. -/
def findFrom? (folded : Bool) (e : Expression) (text : Array Char) (accepts : Fit → Bool)
    (start : Nat) : Option Fit :=
  (List.range' start (text.size + 1 - start)).findSome? (fitAt folded e text accepts)

/-- The first fit that does not start before a place. -/
def find? (folded : Bool) (e : Expression) (text : Array Char) (start : Nat) : Option Fit :=
  findFrom? folded e text (fun _ => true) start

/-! ## Reading -/

/-- How an expression is written. -/
structure Style where
  extended : Bool
  /-- Line ends and tabs are written as letters behind a backslash. -/
  namesBlanks : Bool
  /-- Signs that make no sense where they stand are problems. -/
  strict : Bool
  deriving DecidableEq, Repr

/-- The text that is left to read and the number of groups there were. -/
abbrev Reading (α : Type) := StateT (Raw × Nat) (Except String) α

/-- A reading that cannot go on. -/
def problem {α : Type} (message : String) : Reading α := fun _ => .error message

/-- What is left behind a sign that carries a backslash in one of the styles. -/
def sign? (style : Style) (c : Char) (s : Raw) : Option Raw :=
  match style.extended, s with
  | true, d :: r => if c = d then some r else none
  | false, '\\' :: d :: r => if c = d then some r else none
  | _, _ => none

/-- Takes a sign if it comes next. -/
def take? (style : Style) (c : Char) : Reading Bool := do
  let (s, n) ← get
  match sign? style c s with
  | some r => set (r, n); return true
  | none => return false

/-- A branch ends before this text. Outside of groups a closing parenthesis may stand for itself. -/
def ends (style : Style) (inside : Bool) (s : Raw) : Bool :=
  s.isEmpty || (sign? style '|' s).isSome
    || ((inside || style.strict || !style.extended) && (sign? style ')' s).isSome)

/-- Cuts how often something is repeated, behind the opening brace. What follows the numbers is
left. -/
def cutBounds? (s : Raw) : Option (Nat × Option Nat × Raw) :=
  let first := s.takeWhile Char.isDigit
  let rest := s.drop first.length
  match rest with
  | ',' :: r =>
    let last := r.takeWhile Char.isDigit
    some ((Raw.nat? first).getD 0, Raw.nat? last, r.drop last.length)
  | r => (Raw.nat? first).map fun n => (n, some n, r)

/-- Reads how often something is repeated, behind the opening brace. -/
def bounds (style : Style) : Reading (Nat × Option Nat) := do
  let (s, n) ← get
  let wrong := problem "Invalid content of \\\x7b\\\x7d"
  match cutBounds? s with
  | none => if s.isEmpty then problem "Unmatched \\\x7b" else wrong
  | some (least, most, rest) =>
    match sign? style '\x7d' rest with
    | none => if rest.isEmpty then problem "Unmatched \\\x7b" else wrong
    | some r =>
      if most.any (· < least) then wrong
      else if 32767 < max least (most.getD 0) then problem "Regular expression too big"
      else
        set (r, n)
        return (least, most)

/-- An opening brace is followed by a whole bound. -/
def isBound (style : Style) (s : Raw) : Bool :=
  (cutBounds? s).any fun b => (sign? style '\x7d' b.2.2).isSome

/-- Reads the repetitions behind an expression. -/
def repetitions (style : Style) : (fuel : Nat) → Expression → Reading Expression
  | 0, e => return e
  | fuel + 1, e => do
    let (s, n) ← get
    if let '*' :: r := s then
      set (r, n)
      repetitions style fuel (.repeated 0 none e)
    else if ← take? style '+' then repetitions style fuel (.repeated 1 none e)
    else if ← take? style '?' then repetitions style fuel (.repeated 0 (some 1) e)
    else
      match sign? style '\x7b' s with
      | none => return e
      | some r =>
        if style.extended && !style.strict && !isBound style r then return e
        else
          set (r, n)
          let (least, most) ← bounds style
          repetitions style fuel (.repeated least most e)

/-- The letters behind a backslash that stand for something. -/
def named? (style : Style) (c : Char) : Option Expression :=
  let word : List Shell.Member := [.kind "alnum", .range '_' '_']
  match c with
  | 'w' => some (.among false word)
  | 'W' => some (.among true word)
  | 's' => some (.among false [.kind "space"])
  | 'S' => some (.among true [.kind "space"])
  | 'b' => some (.wordEdge true)
  | 'B' => some (.wordEdge false)
  | '<' => some .wordStart
  | '>' => some .wordEnd
  | '\x60' => some .textStart
  | '\'' => some .textEnd
  | 'n' => if style.namesBlanks then some (.one '\n') else none
  | 't' => if style.namesBlanks then some (.one '\t') else none
  | _ => none

/-- The characters that brackets hold, with a name for blanks where the style has it. -/
def inBrackets (style : Style) : Raw → Shell.Field
  | '\\' :: c :: s =>
    if style.namesBlanks && c == 'n' then ('\n', true) :: inBrackets style s
    else if style.namesBlanks && c == 't' then ('\t', true) :: inBrackets style s
    else ('\\', true) :: inBrackets style (c :: s)
  | c :: s => (c, false) :: inBrackets style s
  | [] => []

/-- The text of characters that were read for brackets. -/
def outOfBrackets (f : Shell.Field) : Raw :=
  f.flatMap fun c =>
    if c = ('\n', true) then ['\\', 'n'] else if c = ('\t', true) then ['\\', 't'] else [c.1]

/-- The names of classes. -/
def classNames : List String :=
  ["alpha", "digit", "alnum", "lower", "upper", "space", "blank", "punct", "print", "graph",
    "cntrl", "xdigit"]

/-- Reads brackets behind the opening one. -/
def brackets (style : Style) : Reading Expression := do
  let (s, n) ← get
  if s.isEmpty then problem "Invalid regular expression"
  let (negated, s) := match s with
    | '^' :: r => (true, r)
    | r => (false, r)
  match Shell.Field.members? (s.length + 1) true (inBrackets style s) with
  | none => problem "Unmatched [, [^, [:, [., or [="
  | some (members, rest) =>
    let isBackwards : Shell.Member → Bool
      | .range a b => b < a
      | .kind _ => false
    if members.any isBackwards then problem "Invalid range end"
    let isUnknown : Shell.Member → Bool
      | .range .. => false
      | .kind name => !classNames.contains name
    if members.any isUnknown then problem "Invalid character class name"
    set (outOfBrackets rest, n)
    return .among negated members

/-- Reads one expression that is neither repeated nor followed by others. `inner` reads what a group
holds; `first` tells that nothing stands in front of it in its branch. -/
def single (style : Style) (inside : Bool) (inner : Reading Expression) (first : Bool) :
    Reading Expression := do
  if ← take? style '(' then
    modify fun p => (p.1, p.2 + 1)
    let number := (← get).2
    let e ← inner
    if ← take? style ')' then return .group number e
    else problem "Unmatched ( or \\("
  else
    let (s, n) ← get
    let go (r : Raw) (e : Expression) : Reading Expression := do
      set (r, n)
      return e
    match s with
    | '[' :: r => set (r, n); brackets style
    | '.' :: r => go r .any
    | '^' :: r => go r (if style.extended || first then .textStart else .one '^')
    | '$' :: r => go r (if style.extended || ends style inside r then .textEnd else .one '$')
    | ['\\'] => problem "Trailing backslash"
    | '\\' :: c :: r =>
      if '1' ≤ c ∧ c ≤ '9' then
        let number := c.toNat - 0x30
        if n < number then problem "Invalid back reference" else go r (.again number)
      else go r ((named? style c).getD (.one c))
    | c :: r => go r (.one c)
    | [] => return .empty

/-- A repetition cannot follow the start of a text. -/
def isStart : Expression → Bool
  | .textStart => true
  | _ => false

/-- Reads the expressions of a branch, of which there are at most `fuel`. -/
def branch (style : Style) (inside : Bool) (inner : Reading Expression) :
    (fuel : Nat) → (first : Bool) → Reading Expression
  | 0, _ => return .empty
  | fuel + 1, first => do
    let (s, n) ← get
    if ends style inside s then return .empty
    let repeats := s.head? = some '*' || (sign? style '+' s).isSome || (sign? style '?' s).isSome
      || (sign? style '\x7b' s).any (isBound style)
    let e ← if repeats && first && style.extended then
        if style.strict then problem "Invalid preceding regular expression"
        else pure Expression.empty
      else if s.head? = some '*' && first then do
        set (s.drop 1, n)
        pure (.one '*')
      else if repeats && first && style.strict then
        problem "Invalid preceding regular expression"
      else single style inside inner first
    let opens := isStart e && !style.extended
    let e ← if opens then pure e else repetitions style s.length e
    let rest ← branch style inside inner fuel (opens && first)
    return match rest with
      | .empty => e
      | rest => .both e rest

/-- Reads alternatives, of which there are at most `fuel`, up to a closing parenthesis or the end.
-/
def alternatives (style : Style) : (fuel : Nat) → (inside : Bool) → Reading Expression
  | 0, _ => return .empty
  | fuel + 1, inside => do
    let size := (← get).1.length + 1
    let first ← branch style inside (alternatives style fuel true) size true
    if ← take? style '|' then return .either first (← alternatives style fuel inside)
    else return first

/-- Reads an expression. -/
def read (style : Style) (s : Raw) : Except String Expression :=
  match (alternatives style (s.length + 2) false).run (s, 0) with
  | .error m => .error m
  | .ok (e, [], _) => .ok e
  | .ok (_, _) => .error "Unmatched ) or \\)"

/-- The expression of a text that stands for itself. -/
def literal (s : Raw) : Expression := s.foldr (fun c e => .both (.one c) e) .empty

end Expression

end ClarityCheck.Host
