import ClarityCheck.Host.Shell.Script
import ClarityCheck.Host.Utility.Basic

/-!
# Tasks

A task is a running shell: its variables and arguments, where its streams lead, and what has been
written so far. Time passes in milliseconds and only while something waits, so that what is written
at the same time as something else keeps its place.

What a command does to a task is a `Deed`: it changes the task and comes to an end, or it breaks off
for a reason that concerns more than the command.
-/

namespace ClarityCheck.Host.Shell

/-- Where a stream leads. -/
inductive Stream where
  /-- The output or the errors of the whole run. -/
  | run (stream : Nat)
  | pipe (number : Nat)
  | file (l : Location)
  | nowhere
  /-- A source to read from. -/
  | source (number : Nat)
  deriving DecidableEq, Repr

/-- A text that was written, by a task in the background or, under the number zero, by none. -/
structure Written where
  time : Nat
  writer : Nat
  stream : Stream
  text : Raw

/-- Why a command breaks off. -/
inductive Ending where
  /-- The shell ends with its status. -/
  | exits
  /-- The command failed in a way that ends the shell, too. -/
  | fails
  | killed (signal : Nat)
  /-- Nothing happens any more. -/
  | never
  /-- The same happens again and again; what is written by it each time may be known. -/
  | spins (again : Raw)
  /-- So many loops end. -/
  | leaves (loops : Nat)
  /-- So many loops but the last end, and that one goes on with its next round. -/
  | repeats (loops : Nat)
  /-- The function or the file that is run ends. -/
  | returns
  deriving DecidableEq, Repr

/-- A variable, which may have no value. -/
structure Variable where
  name : Raw
  value : Option Raw
  exported : Bool
  /-- The value cannot be changed. -/
  constant : Bool

/-- A task in the background. -/
structure Background where
  number : Nat
  ends : Nat
  status : Nat
  signal : Option Nat

/-- A running shell. -/
structure Task where
  files : Files
  /-- What was written, the latest first. -/
  written : List Written
  /-- Until when tasks in the background, known by their numbers, keep a stream open. -/
  held : List (Stream × Nat × Nat)
  /-- The number of pipes and sources there were. -/
  pipes : Nat
  /-- The number of processes there were. -/
  processes : Nat
  clock : Nat
  /-- When the whole run is stopped from outside. -/
  deadline : Nat
  sources : List (Nat × Source)
  /-- Signals that this shell was sent and has not answered yet. -/
  signals : List Nat
  name : Raw
  arguments : List Raw
  bindings : List Variable
  functions : List (Raw × Script)
  aliases : List (Raw × Raw)
  documents : List (Nat × Word)
  status : Nat
  /-- The status of the last script that was run for what it writes. -/
  captured : Nat
  /-- The status in front of the answer to a signal that is being run. -/
  saved : Option Nat
  streams : List (Nat × Stream)
  background : List Background
  /-- The task in the background that runs, or zero. -/
  writer : Nat
  /-- The shell is one within the shell whose number it shows. -/
  within : Bool
  number : Nat
  /-- The letters of the rules that the shell follows. -/
  rules : Raw
  /-- What is done on a signal; zero stands for the end. -/
  traps : List (Nat × Raw)
  /-- The line and the command that complaints are about. -/
  line : Nat
  command : Option Raw
  /-- How many functions are being run, one within the other. -/
  depth : Nat
  /-- How many loops are being run, one within the other. -/
  loops : Nat
  /-- The variables that the function that is run has changed for itself, as they were before. -/
  locals : List Variable
  /-- Where in an argument the reading of options stands. -/
  optionPlace : Nat

/-- What a command does. -/
abbrev Deed (α : Type) := ExceptT Ending (StateM Task) α

namespace Task

/-- The number of the first process, which nothing shows. -/
def firstNumber : Nat := 4242

/-! ## Variables -/

/-- The variable of a name. -/
def lookup? (t : Task) (name : Raw) : Option Variable := t.bindings.find? (·.name == name)

/-- The value of a variable. -/
def value? (t : Task) (name : Raw) : Option Raw := (t.lookup? name).bind (·.value)

/-- The value of a variable with a name in letters, or nothing. -/
def valueOf (t : Task) (name : String) : Raw := (t.value? name.toList).getD []

/-- Puts a variable in the place of the one with its name, or behind all others. -/
def putInto (v : Variable) : List Variable → List Variable
  | [] => [v]
  | w :: ws => if w.name = v.name then v :: ws else w :: putInto v ws

/-- Puts a variable into a task. -/
def putVariable (t : Task) (v : Variable) : Task := { t with bindings := putInto v t.bindings }

/-- The variable that an assignment makes of the one that was there. -/
def assigned (t : Task) (name value : Raw) : Variable :=
  match t.lookup? name with
  | some v => ⟨name, some value, v.exported || t.rules.contains 'a', v.constant⟩
  | none => ⟨name, some value, t.rules.contains 'a', false⟩

/-- Sets a variable. -/
def assign (t : Task) (name value : Raw) : Task := t.putVariable (t.assigned name value)

/-- The place of a variable in the order in which a shell shows its variables to programs. -/
def drawer (name : Raw) : Nat :=
  ((name.headD '\x00').toNat * 16 + name.foldl (fun n c => n + c.toNat) 0) % 39

/-- The variables that programs see. -/
def environment (t : Task) : List (Raw × Raw) :=
  let shown := t.bindings.filterMap fun v => v.value.bind fun s =>
    if v.exported then some (v.name, s) else none
  shown.mergeSort fun a b => drawer a.1 ≤ drawer b.1

/-- The variables that every shell has. -/
def ownVariables : List Variable :=
  [⟨"IFS".toList, some " \t\n".toList, false, false⟩, ⟨"MAIL".toList, none, false, false⟩,
    ⟨"MAILPATH".toList, none, false, false⟩,
    ⟨"PATH".toList, some "/usr/local/sbin:/usr/local/bin:/usr/sbin:/usr/bin:/sbin:/bin".toList,
      false, false⟩,
    ⟨"PS1".toList, some "# ".toList, false, false⟩, ⟨"PS2".toList, some "> ".toList, false, false⟩,
    ⟨"PS4".toList, some "+ ".toList, false, false⟩, ⟨"OPTIND".toList, some ['1'], false, false⟩]

/-- The variables of a shell that starts in a directory. -/
def variablesFrom (environment : List (Raw × Raw)) (directory : Raw) : List Variable :=
  let put (vs : List Variable) (v : Variable) : List Variable := putInto v vs
  let isName (s : Raw) : Bool := match s with
    | [] => false
    | c :: _ => !c.isDigit && s.all fun c => c.isAlphanum || c == '_'
  let vs := (environment.filter fun e => isName e.1).foldl
    (fun vs e => put vs ⟨e.1, some e.2, true, false⟩) ownVariables
  let vs := put vs ⟨"IFS".toList, some " \t\n".toList, false, false⟩
  let vs := put vs ⟨"OPTIND".toList, some ['1'], false, false⟩
  let vs := put vs ⟨"PPID".toList, some "4241".toList, false, false⟩
  put vs ⟨"PWD".toList, some directory, true, false⟩

/-! ## Beginning and end -/

/-- A shell that starts. -/
def start (files : Files) (environment : List (Raw × Raw)) (deadline : Nat) (name : Raw)
    (arguments : List Raw) : Task where
  files
  written := []
  held := []
  pipes := 1
  processes := firstNumber
  clock := 1
  deadline
  sources := [(0, .empty)]
  signals := []
  name
  arguments
  bindings := variablesFrom environment (Raw.ofPath files.currentPath)
  functions := []
  aliases := []
  documents := []
  status := 0
  captured := 0
  saved := none
  streams := [(0, .source 0), (1, .run 1), (2, .run 2)]
  background := []
  writer := 0
  within := false
  number := firstNumber
  rules := []
  traps := []
  line := 0
  command := none
  depth := 0
  loops := 0
  locals := []
  optionPlace := 0

/-- A command has a status. -/
def withStatus (t : Task) (status : Nat) : Task := { t with status }

/-! ## Streams -/

/-- Writes a text to a stream. -/
def write (t : Task) (stream : Nat) (s : Raw) : Task :=
  match t.streams.lookup stream with
  | some (.file l) =>
    match t.files.get? l with
    | some (.file content permissions) =>
      { t with files := t.files.put l (.file (content ++ Raw.bytes s) permissions) }
    | _ => t
  | some .nowhere | some (.source _) | none => t
  | some sink => { t with written := ⟨t.clock, t.writer, sink, s⟩ :: t.written }

/-- Everything that was written to a stream, in the order of time. -/
def writtenTo (t : Task) (stream : Stream) : Raw :=
  let texts := t.written.reverse.filter (·.stream = stream)
  (texts.mergeSort fun a b => a.time ≤ b.time).flatMap (·.text)

/-- The number of the source that the input comes from. -/
def inputNumber? (t : Task) : Option Nat :=
  match t.streams.lookup 0 with
  | some (.source n) => some n
  | _ => none

/-- What the input holds. -/
def input (t : Task) : Source := (t.inputNumber?.bind fun n => t.sources.lookup n).getD .empty

/-- Leaves something of the input. -/
def withInput (t : Task) (s : Source) : Task :=
  match t.inputNumber? with
  | some n => { t with sources := (n, s) :: t.sources.filter (·.1 ≠ n) }
  | none => t

/-- Leads a stream to a place. -/
def lead (t : Task) (stream : Nat) (place : Stream) : Task :=
  { t with streams := (stream, place) :: t.streams.filter (·.1 ≠ stream) }

/-- Leads a stream to a new source. -/
def leadFrom (t : Task) (stream : Nat) (s : Source) : Task :=
  { t.lead stream (.source t.pipes) with pipes := t.pipes + 1, sources :=
    (t.pipes, s) :: t.sources }

/-- Complains in the name of the shell. -/
def complain (t : Task) (message : Raw) : Task :=
  let about := match t.command with
    | some c => c ++ ": ".toList
    | none => []
  t.write 2 (t.name ++ ": ".toList ++ (toString t.line).toList ++ ": ".toList ++ about ++ message
    ++ ['\n'])

/-- What a utility is started with. -/
def job (t : Task) (label : Raw) (arguments : List Raw) : Job :=
  ⟨label, arguments, t.input, t.files, t.environment⟩

/-! ## Other shells -/

/-- A shell within this one. -/
def inner (t : Task) : Task :=
  { t with
    within := true, signals := [], background := [], locals := []
    traps := t.traps.filter fun a => a.2.isEmpty }

/-- Goes on after another shell has done its work: what all tasks share is taken over. -/
def rejoin (t child : Task) : Task :=
  { t with
    files := { child.files with directory := t.files.directory }
    written := child.written
    held := child.held
    pipes := child.pipes
    processes := child.processes
    clock := child.clock
    sources := child.sources
    status := child.status }

/-! ## Parameters -/

/-- A parameter has a value, unless it is not set. -/
def parameter? (t : Task) (name : Raw) : Option Raw :=
  match name with
  | ['?'] => some (toString t.status).toList
  | ['$'] => some (toString t.number).toList
  | ['!'] => t.background.head?.map fun b => (toString b.number).toList
  | ['#'] => some (toString t.arguments.length).toList
  | ['-'] => some t.rules.reverse
  | ['@'] | ['*'] =>
    if t.arguments.isEmpty then none else some (t.arguments.intersperse [' ']).flatten
  | _ =>
    match Raw.nat? name with
    | some 0 => some t.name
    | some (n + 1) => t.arguments[n]?
    | none => t.value? name

end Task

namespace Deed

/-- Does something and says how it came to an end. -/
def attempt {α : Type} (d : Deed α) : Deed (Except Ending α) := ExceptT.lift (ExceptT.run d)

/-- Breaks off unless something came to an end. -/
def conclude {α : Type} : Except Ending α → Deed α
  | .ok a => return a
  | .error e => throw e

/-- A command has a status. -/
def status (n : Nat) : Deed Unit := modify (·.withStatus n)

/-- Complains and gives the command a status. -/
def complain (message : Raw) (n : Nat) : Deed Unit :=
  modify fun t => (t.complain message).withStatus n

/-- Complains about something that ends the shell. -/
def fail {α : Type} (message : Raw) : Deed α := do
  complain message 2
  throw .fails

/-- Goes on at another time, unless the whole run has been stopped by then. -/
def goOnAt (time : Nat) : Deed Unit := do
  modify fun t => { t with clock := time }
  if (← get).deadline < time then throw .never

end Deed

end ClarityCheck.Host.Shell
