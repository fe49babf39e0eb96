import ClarityCheck.Host.Utility.Basic
import ClarityCheck.Host.Utility.Expression

/-!
# Scripts for editing lines

A script is a list of short commands, each of which may be guarded by the lines that it is meant
for.
-/

namespace ClarityCheck.Host.Edit

/-! ## Scripts -/

/-- A line that a command is meant for. -/
inductive Address where
  | line (n : Nat)
  /-- Every so many lines from one on. -/
  | step (first every : Nat)
  | last
  /-- The lines that an expression fits; the last expression used where none is given. -/
  | fitting (e : Option Expression) (folded : Bool)
  /-- So many lines behind the first one of a range. -/
  | behind (n : Nat)
  /-- The next line whose number is a multiple. -/
  | multiple (n : Nat)

/-- The lines that a command is meant for. -/
structure Guard where
  first : Option Address
  second : Option Address
  negated : Bool

/-- A change of case in a replacement. -/
inductive CaseShift where
  | upper
  | lower
  | upperNext
  | lowerNext
  | ends
  deriving DecidableEq, Repr

/-- A part of a replacement. -/
inductive Piece where
  | char (c : Char)
  | group (n : Nat)
  | shift (s : CaseShift)
  deriving DecidableEq, Repr

/-- A replacement of what an expression fits. -/
structure Substitution where
  expression : Option Expression
  folded : Bool
  replacement : List Piece
  /-- The first fit that is replaced. -/
  from_ : Nat
  everywhere : Bool
  prints : Bool
  file : Option Raw

/-- What a command does. -/
inductive Action where
  | opens
  | closes
  | substitute (s : Substitution)
  | print (firstLine : Bool)
  | delete (firstLine : Bool)
  | quit (prints : Bool) (status : Nat)
  | next
  | appendNext
  | hold (append : Bool)
  | get (append : Bool)
  | exchange
  | append (text : Raw)
  | insert (text : Raw)
  | change (text : Raw)
  | translate (table : List (Char × Char))
  | number
  /-- Goes on at a label, or at the end where none is given; it may depend on whether something was
  replaced. -/
  | jump (condition : Option Bool) (label : Raw)
  | label (name : Raw)
  | list
  | read (file : Raw)
  | write (file : Raw)
  | clear
  | name
  | nothing

/-- A command with its place in the script. -/
structure Command where
  place : Nat
  guard : Guard
  action : Action

/-! ## Reading scripts -/

/-- Why a script cannot be read. -/
inductive Fault where
  /-- A message about a place that has so much text behind it. -/
  | behind (left : Nat) (message : String)
  | openBlock
  | noLabel (name : Raw)

/-- The text that is left to read. -/
abbrev Reading (α : Type) := StateT Raw (Except Fault) α

/-- A fault at the place that was read last. -/
def fault {α : Type} (message : String) : Reading α := fun s => .error (.behind s.length message)

/-- A blank in a script. -/
def isBlank (c : Char) : Bool := Raw.isSpace c && c != '\n'

/-- Drops characters. -/
def skipWhile (p : Char → Bool) : Reading Unit := modify (·.dropWhile p)

/-- Takes the next character. -/
def nextChar? : Reading (Option Char) := do
  match ← get with
  | [] => return none
  | c :: s => set s; return some c

/-- Takes a number. -/
def number? : Reading (Option Nat) := do
  let s ← get
  let digits := s.takeWhile Char.isDigit
  set (s.drop digits.length)
  return Raw.nat? digits

/-- Takes the text up to a delimiter. A backslash takes the delimiter itself as text; brackets of an
expression are taken as a whole. -/
def untilDelimiter (d : Char) (inExpression : Bool) :
    (fuel : Nat) → (inside : Bool) → Reading (Option Raw)
  | 0, _ => return none
  | fuel + 1, inside => do
    match ← nextChar? with
    | none => return none
    | some c =>
      let go (t : Raw) (inside : Bool) : Reading (Option Raw) := do
        return (← untilDelimiter d inExpression fuel inside).map (t ++ ·)
      if c = d ∧ !inside then return some []
      else if c = '\\' ∧ !inside then
        match ← nextChar? with
        | none => return none
        | some e =>
          if e = d ∧ !(inExpression && "()\x7b\x7d+?|1234567890nbBwW<>".toList.contains d)
            then go [d] false
          else if e = d ∧ inExpression then go ['\\', d] false
          else go ['\\', e] false
      else if inExpression && c = '[' && !inside then
        let s ← get
        let (lead, s) := match s with
          | '^' :: r => (['^'], r)
          | r => ([], r)
        let (lead, s) := match s with
          | ']' :: r => (lead ++ [']'], r)
          | r => (lead, r)
        set s
        go ('[' :: lead) true
      else if inside && c = '[' then
        let s ← get
        match s with
        | ':' :: r =>
          let name := r.takeWhile (· ≠ ']')
          set (r.drop (name.length + 1))
          go ("[:".toList ++ name ++ [']']) true
        | _ => go ['['] true
      else if inside && c = ']' then go [c] false
      else go [c] inside

/-- Takes the text up to a delimiter. -/
def delimited (d : Char) (inExpression : Bool) (problem : String) : Reading Raw := do
  match ← untilDelimiter d inExpression ((← get).length + 1) false with
  | some s => return s
  | none => fault problem

/-- Reads an expression; an empty one stands for the last that was used. -/
def expression (extended : Bool) (s : Raw) : Reading (Option Expression) := do
  if s = [] then return none
  match Expression.read ⟨extended, true, true⟩ s with
  | .ok e => return some e
  | .error m => fault m

/-- Reads an address. -/
def address? (extended : Bool) : Reading (Option Address) := do
  match ← get with
  | '$' :: s => set s; return some .last
  | '/' :: s => set s; fitting '/'
  | '\\' :: d :: s => set s; fitting d
  | c :: _ =>
    if !c.isDigit then return none
    let n := (← number?).getD 0
    match ← get with
    | '~' :: s => set s; return some (.step n ((← number?).getD 0))
    | _ => return some (.line n)
  | [] => return none
where
  fitting (d : Char) : Reading (Option Address) := do
    let e ← expression extended (← delimited d true "unterminated address regex")
    match ← get with
    | 'I' :: s => set s; return some (.fitting e true)
    | _ => return some (.fitting e false)

/-- Reads the end of a range. -/
def rangeEnd (extended : Bool) : Reading Address := do
  skipWhile isBlank
  match ← get with
  | '+' :: s => set s; return .behind ((← number?).getD 0)
  | '~' :: s => set s; return .multiple ((← number?).getD 0)
  | _ =>
    match ← address? extended with
    | some a => return a
    | none => fault "unexpected \x60,'"

/-- Reads the lines that a command is meant for. -/
def guard (extended : Bool) : Reading Guard := do
  let first ← address? extended
  skipWhile isBlank
  let second ← match first, ← get with
    | some _, ',' :: s => set s; some <$> rangeEnd extended
    | _, _ => pure none
  skipWhile isBlank
  match ← get with
  | '!' :: s =>
    set s
    skipWhile isBlank
    if let '!' :: r ← get then set r; fault "multiple \x60!'s"
    return ⟨first, second, true⟩
  | _ => return ⟨first, second, false⟩

/-- Reads the end of a command. -/
def finish : Reading Unit := do
  skipWhile isBlank
  match ← get with
  | [] => return ()
  | ';' :: s | '\n' :: s => set s
  | '}' :: _ | '#' :: _ => return ()
  | _ :: s => set s; fault "extra characters after command"

/-- Reads a name up to the end of its line, or to a semicolon where one may end it. -/
def word (semicolonEnds : Bool) : Reading Raw := do
  skipWhile isBlank
  let s ← get
  let w := s.takeWhile fun c => c ≠ '\n' && !(semicolonEnds && (c == ';' || Raw.isSpace c))
  set (s.drop w.length)
  return w

/-- The text of several lines: a backslash quotes what follows it. -/
def unquoteText : Raw → Raw × Raw
  | [] => ([], [])
  | '\n' :: s => ([], s)
  | '\\' :: c :: s => let r := unquoteText s; (c :: r.1, r.2)
  | c :: s => let r := unquoteText s; (c :: r.1, r.2)

/-- Reads the text of a command that adds one. -/
def text : Reading Raw := do
  skipWhile isBlank
  match ← get with
  | [] => fault "expected \\ after \x60a', \x60c' or \x60i'"
  | '\\' :: s =>
    let rest := match s.dropWhile isBlank with
      | '\n' :: r => r
      | _ => s
    let (t, r) := unquoteText rest
    set r
    return if rest.isEmpty then [] else t ++ ['\n']
  | s =>
    let (t, r) := unquoteText s
    set r
    return t ++ ['\n']

/-- The parts of a replacement. -/
def pieces : Raw → List Piece
  | [] => []
  | '&' :: s => .group 0 :: pieces s
  | '\\' :: c :: s =>
    let piece : Piece :=
      if c.isDigit then .group (c.toNat - 0x30)
      else match c with
        | 'n' => .char '\n'
        | 't' => .char '\t'
        | 'U' => .shift .upper
        | 'L' => .shift .lower
        | 'u' => .shift .upperNext
        | 'l' => .shift .lowerNext
        | 'E' => .shift .ends
        | c => .char c
    piece :: pieces s
  | c :: s => .char c :: pieces s

/-- The largest number of a group in an expression. -/
def groupsIn : Expression → Nat
  | .group n e => max n (groupsIn e)
  | .both a b | .either a b => max (groupsIn a) (groupsIn b)
  | .repeated _ _ e => groupsIn e
  | _ => 0

/-- Reads the flags of a substitution, of which there are at most `fuel`. -/
def flags : (fuel : Nat) → Substitution → Reading Substitution
  | 0, s => return s
  | fuel + 1, s => do
    let once (isSet : Bool) (name : String) : Reading Unit := do
      if isSet then fault ("multiple " ++ name ++ " options to \x60s' command")
    match ← get with
    | 'g' :: r => set r; once s.everywhere "\x60g'"; flags fuel { s with everywhere := true }
    | 'p' :: r => set r; once s.prints "\x60p'"; flags fuel { s with prints := true }
    | 'i' :: r | 'I' :: r => set r; flags fuel { s with folded := true }
    | 'm' :: r | 'M' :: r => set r; flags fuel s
    | 'w' :: r => set r; return { s with file := some (← word false) }
    | c :: r =>
      if c.isDigit then
        let n := (← number?).getD 0
        once (s.from_ ≠ 0) "number"
        if n = 0 then fault "number option to \x60s' command may not be zero"
        flags fuel { s with from_ := n }
      else if isBlank c then set r; flags fuel s
      else if ";\n\x7d#".toList.contains c then return s
      else set r; fault "unknown option to \x60s'"
    | [] => return s

/-- Reads a substitution. -/
def substitution (extended : Bool) : Reading Action := do
  let problem := "unterminated \x60s' command"
  match ← nextChar? with
  | none => fault problem
  | some d =>
    let wanted ← delimited d true problem
    let replacement := pieces (← delimited d false problem)
    let s ← flags ((← get).length + 1) ⟨none, false, replacement, 0, false, false, none⟩
    let e ← expression extended wanted
    let most := replacement.foldl (fun n p =>
      match p with
      | .group k => max n k
      | _ => n) 0
    if e.any fun e => groupsIn e < most then
      fault ("invalid reference \\" ++ toString most ++ " on \x60s' command's RHS")
    return .substitute { s with expression := e }

/-- The characters of a list for translation. -/
def letters : Raw → Raw
  | '\\' :: 'n' :: s => '\n' :: letters s
  | '\\' :: 't' :: s => '\t' :: letters s
  | '\\' :: '\\' :: s => '\\' :: letters s
  | c :: s => c :: letters s
  | [] => []

/-- Reads a translation. -/
def translation : Reading Action := do
  let problem := "unterminated \x60y' command"
  match ← nextChar? with
  | none => fault problem
  | some d =>
    let sources := letters (← delimited d false problem)
    let targets := letters (← delimited d false problem)
    if sources.length ≠ targets.length then
      fault "strings for \x60y' command are different lengths"
    return .translate (sources.zip targets)

/-- Reads what a command does, behind its letter. -/
def action (extended : Bool) (g : Guard) (c : Char) : Reading Action := do
  let single : Reading Unit := do
    if g.second.isSome then fault "command only uses one address"
  let ended (a : Action) : Reading Action := do finish; return a
  match c with
  | '\x7b' => return .opens
  | '\x7d' =>
    if g.first.isSome then fault "\x7d doesn't want any addresses"
    ended .closes
  | 's' => let a ← substitution extended; ended a
  | 'y' => let a ← translation; ended a
  | 'p' => ended (.print false)
  | 'P' => ended (.print true)
  | 'd' => ended (.delete false)
  | 'D' => ended (.delete true)
  | 'q' => single; skipWhile isBlank; let n ← number?; ended (.quit true (n.getD 0))
  | 'Q' => single; skipWhile isBlank; let n ← number?; ended (.quit false (n.getD 0))
  | 'n' => ended .next
  | 'N' => ended .appendNext
  | 'h' => ended (.hold false)
  | 'H' => ended (.hold true)
  | 'g' => ended (.get false)
  | 'G' => ended (.get true)
  | 'x' => ended .exchange
  | '=' => ended .number
  | 'l' => skipWhile isBlank; let _ ← number?; ended .list
  | 'z' => ended .clear
  | 'F' => ended .name
  | 'v' => let _ ← word true; ended .nothing
  | 'a' => return .append (← text)
  | 'i' => return .insert (← text)
  | 'c' => return .change (← text)
  | 'b' => let w ← word true; ended (.jump none w)
  | 't' => let w ← word true; ended (.jump (some true) w)
  | 'T' => let w ← word true; ended (.jump (some false) w)
  | 'r' => return .read (← word false)
  | 'w' => return .write (← word false)
  | ':' =>
    if g.first.isSome then fault ": doesn't want any addresses"
    let w ← word true
    if w.isEmpty then fault "\":\" lacks a label"
    ended (.label w)
  | '#' =>
    if g.first.isSome then fault "comments don't accept any addresses"
    let _ ← word false
    return .nothing
  | c => fault ("unknown command: \x60" ++ c.toString ++ "'")

/-- An address that no line has. -/
def isZero : Option Address → Bool
  | some (.line 0) => true
  | _ => false

/-- A range may begin in front of the first line if an expression ends it. -/
def mayBeginAtZero : Option Address → Bool
  | some (.fitting ..) => true
  | _ => false

/-- Reads commands, of which there are at most `fuel`. `depth` counts the blocks that are open. -/
def commands (extended : Bool) : (fuel place depth : Nat) → Reading (List Command)
  | 0, _, _ => return []
  | fuel + 1, place, depth => do
    skipWhile fun c => Raw.isSpace c || c == ';'
    if (← get).isEmpty then
      if 0 < depth then (fun _ => .error .openBlock) else return []
    else
      let g ← guard extended
      match ← nextChar? with
      | none => fault "missing command"
      | some c =>
        if isZero g.first && !mayBeginAtZero g.second then fault "invalid usage of line address 0"
        if c = '\x7d' ∧ depth = 0 then fault "unexpected \x60\x7d'"
        let a ← action extended g c
        let depth := match a with
          | .opens => depth + 1
          | .closes => depth - 1
          | _ => depth
        return ⟨place, g, a⟩ :: (← commands extended fuel (place + 1) depth)

/-- The commands of a label and behind it. -/
def fromLabel (name : Raw) : List Command → Option (List Command)
  | [] => none
  | c :: cs =>
    match c.action with
    | .label n => if n = name then some cs else fromLabel name cs
    | _ => fromLabel name cs

/-- Reads a script. -/
def script (extended : Bool) (s : Raw) : Except Fault (List Command) := do
  let cs ← (commands extended (s.length + 1) 0 0).run s |>.map (·.1)
  cs.forM fun c =>
    match c.action with
    | .jump _ name =>
      if name.isEmpty || (fromLabel name cs).isSome then .ok () else .error (.noLabel name)
    | _ => .ok ()
  return cs

end ClarityCheck.Host.Edit
