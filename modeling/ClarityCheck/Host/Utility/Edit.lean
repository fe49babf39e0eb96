import ClarityCheck.Host.Utility.EditScript
import ClarityCheck.Host.Utility.Lines

/-!
# Editing lines by a script

A script of short commands is run on each line of a text. The line lies in a space that commands
change, and a second space holds text from one line to the next.
-/

namespace ClarityCheck.Host

namespace Edit

/-! ## The state of an editor -/

/-- A line with whether its end was found. -/
abbrev Line := Raw × Bool

/-- What an editor works on. -/
structure State where
  space : Raw
  held : Raw
  number : Nat
  /-- The line in the space had its end. -/
  ended : Bool
  rest : List Line
  /-- Texts that come behind the line. -/
  queue : List Raw
  replaced : Bool
  /-- The ranges that have begun, by the places of their commands, with their last lines where these
  are known. -/
  ranges : List (Nat × Option Nat)
  lastUsed : Option (Expression × Bool)
  output : List Raw
  /-- The end of the last line that was written is missing. -/
  missing : Bool
  files : Files
  name : Raw

/-- How a script went on. -/
inductive Turn where
  /-- The line is complete. -/
  | complete
  /-- The next line is read, or the space is used again. -/
  | renews (reads : Bool)
  | quits (prints : Bool) (status : Nat)
  | endless

/-- Something that is done to a state. -/
abbrev Doing := StateM State

/-- Writes a text, which may lack the end of its last line. -/
def emit (s : Raw) (ended : Bool) : Doing Unit := modify fun t =>
  let lead := if t.missing then ['\n'] else []
  { t with output := (lead ++ s ++ if ended then ['\n'] else []) :: t.output, missing := !ended }

/-- Writes lines as they are. -/
def emitLines (s : Raw) : Doing Unit := do
  unless s.isEmpty do
    let ended := s.getLast? = some '\n'
    emit (if ended then s.dropLast else s) ended

/-- Writes the line in the space. -/
def emitSpace : Doing Unit := do emit (← get).space (← get).ended

/-- Writes the texts that come behind the line. -/
def flush : Doing Unit := do
  let texts := (← get).queue
  modify fun t => { t with queue := [] }
  texts.forM emitLines

/-- Writes a text to a file. -/
def emitTo (file s : Raw) : Doing Unit := do
  if file = "/dev/stdout".toList then emit s true
  else modify fun t =>
    match t.files.locate true (Raw.path file) with
    | .ok l =>
      match t.files.get? l with
      | some (.file content permissions) =>
        { t with files := t.files.put l (.file (content ++ Raw.bytes (s ++ ['\n'])) permissions) }
      | _ => t
    | .error _ => t

/-- The expression that is meant, which becomes the last one used. -/
def meant (e : Option Expression) (folded : Bool) : Doing (Option (Expression × Bool)) := do
  match e with
  | some e => modify fun t => { t with lastUsed := some (e, folded) }; return some (e, folded)
  | none => return (← get).lastUsed

/-- An address holds for the line. -/
def holds : Address → Doing Bool
  | .line n => return (← get).number = n
  | .step first every => do
    let n := (← get).number
    return if every = 0 then n = first else first ≤ n && (n - first) % every = 0
  | .last => return (← get).rest.isEmpty
  | .fitting e folded => do
    match ← meant e folded with
    | some (e, folded) => return (e.find? folded (← get).space.toArray 0).isSome
    | none => return false
  | .behind _ | .multiple _ => return false

/-- The last line of a range that begins at a line, where it is known from the beginning. -/
def knownEnd (number : Nat) : Address → Option Nat
  | .line n => some n
  | .behind n => some (number + n)
  | .multiple n => some (if n = 0 then number else (number + n - 1) / n * n)
  | _ => none

/-- The line is in the range of a command. -/
def inRange (place : Nat) (first second : Address) : Doing Bool := do
  let t ← get
  let stop : Doing Unit := modify fun t => { t with ranges := t.ranges.filter (·.1 ≠ place) }
  match t.ranges.lookup place with
  | some (some last) =>
    if last ≤ t.number then stop
    return t.number ≤ last
  | some none =>
    if ← holds second then stop
    return true
  | none =>
    if ← holds first then
      let last := knownEnd t.number second
      unless last.any (· ≤ t.number) do
        modify fun t => { t with ranges := (place, last) :: t.ranges }
      return true
    else return false

/-- A command is meant for the line. -/
def isMeant (c : Command) : Doing Bool := do
  let found ← match c.guard.first, c.guard.second with
    | some a, some b => inRange c.place a b
    | some a, none => holds a
    | none, _ => pure true
  return found != c.guard.negated

/-- The commands behind the block that is open. -/
def skipBlock : (depth : Nat) → List Command → List Command
  | _, [] => []
  | depth, c :: cs =>
    match c.action, depth with
    | .closes, 0 => cs
    | .closes, depth + 1 => skipBlock depth cs
    | .opens, depth => skipBlock (depth + 1) cs
    | _, depth => skipBlock depth cs

/-- Text in another case: the case that lasts, and that of the next character. -/
def shifted (lasting next : Option CaseShift) (s : Raw) : Raw :=
  let turn : Option CaseShift → Char → Char
    | some .upper, c | some .upperNext, c => c.toUpper
    | some .lower, c | some .lowerNext, c => c.toLower
    | _, c => c
  match s with
  | [] => []
  | c :: s => turn (next.or lasting) c :: s.map (turn lasting)

/-- The text of a replacement. -/
def replacementOf (text : Raw) (f : Expression.Fit) (ps : List Piece) : Raw :=
  let cut (a b : Nat) : Raw := (text.drop a).take (b - a)
  let step (r : Raw × Option CaseShift × Option CaseShift) (p : Piece) :
      Raw × Option CaseShift × Option CaseShift :=
    let (out, lasting, next) := r
    let add (s : Raw) : Raw × Option CaseShift × Option CaseShift :=
      (out ++ shifted lasting next s, lasting, if s.isEmpty then next else none)
    match p with
    | .char c => add [c]
    | .group 0 => add (cut f.start f.trace.place)
    | .group n =>
      match f.trace.groups.lookup n with
      | some (a, b) => add (cut a b)
      | none => r
    | .shift .ends => (out, none, none)
    | .shift .upper => (out, some .upper, none)
    | .shift .lower => (out, some .lower, none)
    | .shift s => (out, lasting, some s)
  (ps.foldl step ([], none, none)).1

/-- Replaces fits from a place on, in at most `fuel` steps. `count` is the number of fits so far and
`behind` the place behind the last one. -/
def replaceFrom (s : Substitution) (e : Expression) (folded : Bool) (text : Raw)
    (chars : Array Char) :
    (fuel place count : Nat) → (behind : Option Nat) → Raw × Bool
  | 0, place, _, _ => (text.drop place, false)
  | fuel + 1, place, count, behind =>
    match e.find? folded chars place with
    | none => (text.drop place, false)
    | some f =>
      let lead := (text.drop place).take (f.start - place)
      let width := f.trace.place - f.start
      if width = 0 ∧ behind = some f.start then
        let (r, found) := replaceFrom s e folded text chars fuel (f.start + 1) count none
        (lead ++ (text.drop f.start).take 1 ++ r, found)
      else
        let isWanted := s.from_ ≤ count + 1
        let new := if isWanted then replacementOf text f s.replacement
          else (text.drop f.start).take width
        let step := if width = 0 then (text.drop f.start).take 1 else []
        let next := if width = 0 then f.start + 1 else f.trace.place
        if isWanted && !s.everywhere then (lead ++ new ++ text.drop f.trace.place, true)
        else if chars.size < next then (lead ++ new ++ step, isWanted)
        else
          let (r, found) := replaceFrom s e folded text chars fuel next (count + 1)
            (if width = 0 then none else some f.trace.place)
          (lead ++ new ++ step ++ r, found || isWanted)

/-- Replaces what an expression fits. -/
def substitute (s : Substitution) : Doing Unit := do
  let text := (← get).space
  match ← meant s.expression s.folded with
  | none => return ()
  | some (e, folded) =>
    let chars := text.toArray
    let (new, found) := replaceFrom s e folded text chars (2 * text.length + 3) 0 0 none
    if found then
      modify fun t => { t with space := new, replaced := true }
      if s.prints then emitSpace
      if let some file := s.file then emitTo file new

/-- Reads the next line into the space. -/
def advance (join : Bool) : Doing Bool := do
  let t ← get
  match t.rest with
  | [] => return false
  | (line, ended) :: rest =>
    flush
    modify fun t => { t with
      space := if join then t.space ++ '\n' :: line else line
      ended, rest, number := t.number + 1 }
    return true

/-- A line as its characters are named. -/
def listing (s : Raw) : Raw :=
  let named (c : Char) : Raw := match c with
    | '\\' => "\\\\".toList
    | '\x07' => "\\a".toList
    | '\x08' => "\\b".toList
    | '\x0c' => "\\f".toList
    | '\n' => "\\n".toList
    | '\r' => "\\r".toList
    | '\t' => "\\t".toList
    | '\x0b' => "\\v".toList
    | c =>
      if 0x20 ≤ c.toNat ∧ c.toNat < 0x7F then [c]
      else
        let digit (n : Nat) : Char := Char.ofNat (0x30 + n % 8)
        ['\\', digit (c.toNat / 64), digit (c.toNat / 8), digit c.toNat]
  let (out, _) := s.foldl (fun (out, width) c =>
    let n := named c
    if 69 < width + n.length then (out ++ "\\\n".toList ++ n, n.length)
    else (out ++ n, width + n.length)) (([] : Raw), 0)
  out ++ ['$']

/-- The first line of the space. -/
def firstLine (s : Raw) : Raw := s.takeWhile (· ≠ '\n')

/-- The content of a file that is read. -/
def contentOf (files : Files) (file : Raw) : Raw :=
  match files.read (Raw.path file) with
  | .ok content => Raw.ofBytes content
  | .error _ => []

/-- Does what a command says, unless it concerns the order of commands. -/
def perform (quiet : Bool) (c : Command) : Doing (Option Turn) := do
  let t ← get
  match c.action with
  | .substitute s => substitute s; return none
  | .print false => emitSpace; return none
  | .print true => emit (firstLine t.space) true; return none
  | .delete false => return some (.renews true)
  | .delete true =>
    match t.space.dropWhile (· ≠ '\n') with
    | [] => return some (.renews true)
    | _ :: rest => set { t with space := rest }; return some (.renews false)
  | .quit prints status => return some (.quits prints status)
  | .next =>
    if t.rest.isEmpty then return some (.quits true 0)
    if !quiet then emitSpace
    let _ ← advance false
    return none
  | .appendNext => return if ← advance true then none else some (.quits true 0)
  | .hold false => set { t with held := t.space }; return none
  | .hold true => set { t with held := t.held ++ '\n' :: t.space }; return none
  | .get false => set { t with space := t.held }; return none
  | .get true => set { t with space := t.space ++ '\n' :: t.held }; return none
  | .exchange => set { t with space := t.held, held := t.space }; return none
  | .append s => set { t with queue := t.queue ++ [s] }; return none
  | .insert s => emitLines s; return none
  | .change s =>
    if c.guard.negated || (t.ranges.lookup c.place).isNone then emitLines s
    return some (.renews true)
  | .translate table =>
    set { t with space := t.space.map fun c => (table.lookup c).getD c }
    return none
  | .number => emit (toString t.number).toList true; return none
  | .list => emit (listing t.space) true; return none
  | .read file => set { t with queue := t.queue ++ [contentOf t.files file] }; return none
  | .write file => emitTo file t.space; return none
  | .clear => set { t with space := [] }; return none
  | .name => emit t.name true; return none
  | .opens | .closes | .jump .. | .label _ | .nothing => return none

/-- Runs commands, at most `fuel` of them. -/
def run (quiet : Bool) (all : List Command) : (fuel : Nat) → List Command → Doing Turn
  | 0, _ => return .endless
  | _, [] => return .complete
  | fuel + 1, c :: cs => do
    let meant ← isMeant c
    match c.action with
    | .opens => run quiet all fuel (if meant then cs else skipBlock 0 cs)
    | .jump condition name =>
      let replaced := (← get).replaced
      let follows := match condition with
        | none => true
        | some wanted => replaced == wanted
      if meant && follows then
        if condition.isSome then modify fun t => { t with replaced := false }
        run quiet all fuel (if name.isEmpty then [] else (fromLabel name all).getD [])
      else
        if meant && condition = some false then modify fun t => { t with replaced := false }
        run quiet all fuel cs
    | _ =>
      if !meant then run quiet all fuel cs
      else
        match ← perform quiet c with
        | none => run quiet all fuel cs
        | some turn => return turn

/-- How many commands are run for one line before they count as ones that never end. -/
def commandLimit : Nat := 100000

/-- Runs a script on the lines that are left, of which there are at most `fuel`, and gives the
status and whether the script has quit, or nothing if it never ends. -/
def cycle (quiet : Bool) (all : List Command) :
    (fuel : Nat) → (reads : Bool) → Doing (Option (Nat × Bool))
  | 0, _ => return some (0, false)
  | fuel + 1, reads => do
    let hasLine ← if reads then advance false else pure true
    if !hasLine then return some (0, false)
    if reads then modify fun t => { t with replaced := false }
    match ← run quiet all commandLimit all with
    | .complete =>
      if !quiet then emitSpace
      flush
      cycle quiet all fuel true
    | .renews reads => flush; cycle quiet all fuel reads
    | .quits prints status =>
      if prints && !quiet then emitSpace
      flush
      return some (status, true)
    | .endless => return none

/-- The lines of a text, each with whether its end was found. -/
def linesWithEnds (s : Raw) : List Line :=
  let lines := linesOf s
  if s.getLast? = some '\n' then lines.map (·, true)
  else (lines.dropLast.map (·, true)) ++ (lines.getLast?.toList.map (·, false))

/-- The state at the beginning. -/
def State.start (files : Files) : State where
  space := []
  held := []
  number := 0
  ended := true
  rest := []
  queue := []
  replaced := false
  ranges := []
  lastUsed := none
  output := []
  missing := false
  files
  name := ['-']

/-- The ranges that begin in front of the first line. -/
def openRanges (cs : List Command) : List (Nat × Option Nat) :=
  cs.filterMap fun c => if isZero c.guard.first then some (c.place, none) else none

/-- Edits a text. -/
def edit (quiet : Bool) (cs : List Command) (name : Raw) (lines : List Line) :
    Doing (Option (Nat × Bool)) := do
  modify fun t => { t with rest := lines, name }
  cycle quiet cs (2 * lines.length + (lines.flatMap (·.1)).length + 2) true

/-- Empties the files that a script writes to. -/
def emptyFiles (cs : List Command) (files : Files) : Files :=
  cs.foldl (fun files c =>
    let file := match c.action with
      | .write f => some f
      | .substitute s => s.file
      | _ => none
    match file with
    | some f =>
      if f = "/dev/stdout".toList then files
      else (files.write (Raw.path f) []).toOption.getD files
    | none => files) files

/-- The wording of a fault in a script of so many characters. -/
def Fault.message (length : Nat) : Fault → String
  | .behind left m => "-e expression #1, char " ++ toString (length - left) ++ ": " ++ m
  | .openBlock => "-e expression #1, char 0: unmatched \x60\x7b'"
  | .noLabel name => "can't find label for jump to \x60" ++ String.ofList name ++ "'"

/-- The status after a fault. -/
def Fault.status : Fault → Nat
  | .noLabel _ => 4
  | _ => 1

/-- The letters of the options. -/
def optionLetters : Job.Letters :=
  ("nErsuzi".toList.map fun c => (c, false)) ++ ("efl".toList.map fun c => (c, true))

/-- The long names of options and their letters. -/
def longNames : List (String × Char) :=
  [("quiet", 'n'), ("silent", 'n'), ("regexp-extended", 'E'), ("separate", 's'),
    ("unbuffered", 'u'), ("expression", 'e'), ("file", 'f')]

/-- Edits files in their places, keeping the old ones under other names if a suffix is given. -/
def editInPlace (j : Job) (quiet : Bool) (cs : List Command) (suffix : Raw) (files : List Raw) :
    Effect :=
  let step (r : Effect × State × Bool) (p : Raw) : Effect × State × Bool :=
    let (e, t, quit) := r
    if quit then r
    else
      let refuse (m : String) (status : Nat) : Effect × State × Bool :=
        ({ e with written := e.written ++ [j.complaint m.toList], status }, t, false)
      match t.files.stat (Raw.path p) with
      | .ok (.file content permissions) =>
        let start := { t with number := 0, output := [], missing := false, ranges := openRanges cs }
        let (result, t) := (edit quiet cs p (linesWithEnds (Raw.ofBytes content))).run start
        match result with
        | none => ({ e with span := .spins [] }, t, true)
        | some (status, quit) =>
          let rest := t.rest.flatMap fun l => l.1 ++ if l.2 then ['\n'] else []
          let new := t.output.reverse.flatten ++ if quit then rest else []
          match t.files.locate true (Raw.path p) with
          | .ok l =>
            let files := t.files.put l (.file (Raw.bytes new) permissions)
            let files := if suffix.isEmpty then files
              else (files.write (Raw.path (p ++ suffix)) content).toOption.getD files
            ({ e with status := if quit then status else e.status }, { t with files }, quit)
          | .error _ => (e, t, quit)
      | .ok _ => refuse ("couldn't edit " ++ String.ofList p ++ ": not a regular file") 4
      | .error err =>
        refuse ("can't read " ++ String.ofList p ++ ": " ++ String.ofList (Job.reason err)) 2
  let (e, t, _) := files.foldl step (j.nothing, State.start (emptyFiles cs j.files), false)
  { e with files := t.files }

/-- Edits what operands name as one text and writes it to the output. -/
def editAll (j : Job) (quiet : Bool) (cs : List Command) (operands : List Raw) : Effect :=
  let operands := if operands.isEmpty then [['-']] else operands
  let gather (r : Effect × List Line × Source.After) (p : Raw) :
      Effect × List Line × Source.After :=
    let (e, lines, after) := r
    match after, j.source p with
    | .ends, .ok s =>
      ({ e with input := if p = ['-'] then { s with text := [] } else e.input },
        lines ++ linesWithEnds s.known, s.after)
    | .ends, .error err =>
      let (m, status) := match err.kindOf with
        | .isADirectory => ("read error on " ++ String.ofList p ++ ": Is a directory", 4)
        | _ => ("can't read " ++ String.ofList p ++ ": " ++ String.ofList (Job.reason err), 2)
      ({ e with written := e.written ++ [j.complaint m.toList], status }, lines, after)
    | _, _ => r
  let (e, lines, after) := operands.foldl gather (j.nothing, [], .ends)
  let start := { State.start (emptyFiles cs j.files) with ranges := openRanges cs }
  let (result, t) := (edit quiet cs (operands.headD []) lines).run start
  let e := { e.output t.output.reverse.flatten with files := t.files }
  match result, after with
  | none, _ => { e with span := .spins [] }
  | some (status, true), _ => { e with status := if status = 0 then e.status else status }
  | some (_, false), .ends => e
  | some (_, false), after => { e with span := (Source.mk [] after false).span [] }

end Edit

open Edit in
/-- Edits lines by a script. -/
def sed : Utility := fun j =>
  let isInPlace (a : Raw) : Bool := a.take 2 = "-i".toList || a.take 10 = "--in-place".toList
  let suffix := ((j.arguments.filter isInPlace).getLast?.map fun a =>
    if a.take 2 = "-i".toList then a.drop 2 else a.drop 11).getD []
  let plain := j.arguments.map fun a => if isInPlace a then "-i".toList else a
  let a := Job.Arguments.read optionLetters true (Job.Arguments.shortened longNames plain)
  match a.problem with
  | some m => j.fails 1 m
  | none =>
    let contents := (a.values 'f').map fun f =>
      let s := contentOf j.files f
      if s.getLast? = some '\n' then s.dropLast else s
    let given := a.values 'e' ++ contents
    let (parts, operands) := match given, a.operands with
      | [], s :: rest => ([s], rest)
      | ps, rest => (ps, rest)
    if parts.isEmpty then
      j.fails 1 "no script specified"
    else
      let text := (parts.intersperse ['\n']).flatten
      let quiet := a.has 'n' || text.take 3 = "#n\n".toList
      match script (a.has 'E' || a.has 'r') text with
      | .error f => j.fails f.status (f.message text.length)
      | .ok cs =>
        if a.has 'i' then
          if operands.isEmpty then j.fails 4 "no input files"
          else editInPlace j quiet cs suffix operands
        else editAll j quiet cs operands

end ClarityCheck.Host
