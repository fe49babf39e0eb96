import ClarityCheck.Files.Change
import ClarityCheck.Host.Raw

/-!
# Utilities

A utility is a small program of the host. What it does is a function of its arguments, its input,
the files and its environment.
-/

namespace ClarityCheck.Host

/-! ## Sources -/

/-- What comes behind the text of a source. -/
inductive Source.After where
  | ends
  /-- The same text again and again. -/
  | repeats (s : Raw)
  /-- More, that nobody knows yet; it comes at once or has to be waited for without end. -/
  | goesOn (atOnce : Bool)
  deriving DecidableEq, Repr

/-- What can be read from a stream. -/
structure Source where
  text : Raw
  after : Source.After
  /-- What was read too much can be given back. -/
  isFile : Bool
  deriving DecidableEq, Repr

namespace Source

/-- A text and nothing else. -/
def ofText (s : Raw) : Source := ⟨s, .ends, false⟩

/-- The content of a file. -/
def ofFile (s : Raw) : Source := ⟨s, .ends, true⟩

/-- Nothing to read. -/
def empty : Source := ofText []

/-- Everything that a source holds, if it ends. -/
def whole? (s : Source) : Option Raw :=
  match s.after with
  | .ends => some s.text
  | _ => none

/-- The first characters of a source, at most so many, unless they have to be waited for without
end. -/
def take? (s : Source) (n : Nat) : Option Raw :=
  if n ≤ s.text.length then some (s.text.take n)
  else
    match s.after with
    | .ends => some s.text
    | .repeats p =>
      if p.isEmpty then none
      else
        let missing := n - s.text.length
        some (s.text ++ (List.replicate (missing / p.length + 1) p).flatten.take missing)
    | .goesOn _ => none

/-- What is left behind the first characters. -/
def drop (s : Source) (n : Nat) : Source := { s with text := s.text.drop n }

/-- How much is known of a source that repeats itself. -/
def knownWidth : Nat := 100000

/-- The part of a source that can be read without waiting. It is long where a source repeats itself.
-/
def known (s : Source) : Raw :=
  match s.after with
  | .repeats p => s.text ++ (List.replicate (knownWidth / max p.length 1 + 1) p).flatten
  | _ => s.text

/-- The text of a source, with at least so many lines if it repeats lines. -/
def withLines (s : Source) (n : Nat) : Raw :=
  match s.after with
  | .repeats p => if p.contains '\n' then s.text ++ (List.replicate n p).flatten else s.text
  | _ => s.text

end Source

/-! ## Jobs and effects -/

/-- What a utility is started with. -/
structure Job where
  /-- What its messages start with. -/
  label : Raw
  arguments : List Raw
  input : Source
  files : Files
  environment : List (Raw × Raw)

/-- How long a utility works. -/
inductive Span where
  /-- So many milliseconds. -/
  | takes (milliseconds : Nat)
  /-- It waits without end. -/
  | waits
  /-- It writes without end, in the end a text again and again if one is known. -/
  | spins (again : Raw)
  deriving DecidableEq, Repr

/-- How long a utility works that reads a source to its end. -/
def Source.span (s : Source) (again : Raw) : Span :=
  match s.after with
  | .ends => .takes 0
  | .goesOn false => .waits
  | _ => .spins again

/-- When a program is stopped, in milliseconds, and how the utility that has started it ends then:
with a status or by a signal of its own. -/
structure Limit where
  milliseconds : Nat
  status : Nat
  signal : Option Nat

/-- A program that a utility starts. -/
structure Successor where
  environment : List (Raw × Raw)
  directory : Option Path
  arguments : List Raw
  limit : Option Limit
  /-- The beginning of the message when the program cannot be started, and a hint behind that
  message when there is no such program. -/
  about : Raw
  hint : Raw
  /-- The status of the utility when the program has one. -/
  answer : Nat → Nat

/-- What a utility does. -/
structure Effect where
  /-- What it writes to which stream. -/
  written : List (Nat × Raw)
  status : Nat
  files : Files
  /-- What it leaves of its input. -/
  input : Source
  span : Span
  /-- The programs that it starts one after the other. -/
  successors : List Successor

/-- A small program of the host. -/
abbrev Utility := Job → Effect

namespace Effect

/-- A text goes to the output. -/
def output (e : Effect) (s : Raw) : Effect := { e with written := e.written ++ [(1, s)] }

/-- A text and the end of a line go to the output. -/
def line (e : Effect) (s : Raw) : Effect := e.output (s ++ ['\n'])

/-- Leaves a source behind that was read as far as some characters, if it is the input. A file is
left where the reading ended. -/
def leave (e : Effect) (p : Raw) (s : Source) (n : Nat) : Effect :=
  if p = ['-'] then { e with input := if s.isFile then s.drop n else { s with text := [] } } else e

/-- The status becomes another one. -/
def ending (e : Effect) (status : Nat) : Effect := { e with status }

end Effect

namespace Job

/-- Nothing but success. -/
def nothing (j : Job) : Effect := ⟨[], 0, j.files, j.input, .takes 0, []⟩

/-- Writes a text and succeeds. -/
def writes (j : Job) (s : Raw) : Effect := j.nothing.output s

/-- A message on the stream for errors. -/
def complaint (j : Job) (message : Raw) : Nat × Raw :=
  (2, j.label ++ ": ".toList ++ message ++ ['\n'])

/-- Complains and has a status. -/
def fails (j : Job) (status : Nat) (message : String) : Effect :=
  { j.nothing with written := [j.complaint message.toList], status }

/-- Complains about the arguments and says how to learn about them. -/
def misused (j : Job) (message : String) : Effect :=
  { j.nothing with
    written := [j.complaint message.toList,
      (2, "Try '".toList ++ j.label ++ " --help' for more information.\n".toList)]
    status := 1 }

/-- The wording of an error in the messages of utilities. -/
def reason (e : SystemError) : Raw :=
  match e with
  | .code n => (SystemError.description n).toList
  | e => e.message.toList

/-- A complaint about a path. -/
def pathComplaint (j : Job) (path : Raw) (e : SystemError) : Nat × Raw :=
  j.complaint (path ++ ": ".toList ++ reason e)

/-- Tries something on each path in turn. What fails leaves a complaint and a status of one. -/
def onEach (j : Job) (paths : List Raw) (act : Files → Path → Except SystemError Files)
    (complain : Raw → SystemError → Raw) : Effect :=
  paths.foldl (fun e p =>
    match act e.files (Raw.path p) with
    | .ok files => { e with files }
    | .error err =>
      { e with written := e.written ++ [j.complaint (complain p err)], status := 1 }) j.nothing

/-! ## Reading -/

/-- What an operand names; a dash is the input. -/
def source (j : Job) (path : Raw) : Except SystemError Source :=
  if path = ['-'] ∨ path = "/dev/stdin".toList then .ok j.input
  else
    match j.files.stat (Raw.path path) with
    | .error e => .error e
    | .ok (.file content _) => .ok (.ofFile (Raw.ofBytes content))
    | .ok (.device .zero) => .ok ⟨[], .repeats ['\x00'], true⟩
    | .ok .directory => .error .isDirectory
    | .ok _ => .ok .empty

/-- Handles what each operand names, without operands the input. A source that does not end is never
left; what it repeats is handled again and again. -/
def filter (j : Job) (operands : List Raw) (complain : Raw → SystemError → Raw) (failure : Nat)
    (act : Effect → Raw → Raw → Effect) : Effect :=
  let operands := if operands.isEmpty then [['-']] else operands
  operands.foldl (fun e p =>
    match e.span, j.source p with
    | .takes _, .error err =>
      { e with written := e.written ++ [j.complaint (complain p err)], status := failure }
    | .takes _, .ok s =>
      let e := act e p s.known
      let e := if p = ['-'] then { e with input := { s with text := [] } } else e
      let again := match s.after with
        | .repeats period =>
          ((act j.nothing p period).written.filter (·.1 = 1)).flatMap (·.2)
        | _ => []
      if s.after = .ends then e else { e with span := s.span again }
    | _, _ => e) j.nothing

/-- An error behind the path that it is about. -/
def plainly (p : Raw) (e : SystemError) : Raw := p ++ ": ".toList ++ reason e

/-! ## Arguments -/

/-- Options by their letters, each with whether a value belongs to it. -/
abbrev Letters := List (Char × Bool)

/-- The options and the operands that arguments write. -/
structure Arguments where
  options : List (Char × Raw)
  operands : List Raw
  /-- What is wrong with the first argument that cannot be read. -/
  problem : Option String

namespace Arguments

/-- An option is among the arguments. -/
def has (a : Arguments) (c : Char) : Bool := a.options.any (·.1 == c)

/-- The value of an option, the last one if there are several. -/
def value? (a : Arguments) (c : Char) : Option Raw :=
  (a.options.filter (·.1 == c)).getLast?.map (·.2)

/-- All values of an option. -/
def values (a : Arguments) (c : Char) : List Raw := (a.options.filter (·.1 == c)).map (·.2)

/-- Operands alone. -/
def ofOperands (operands : List Raw) : Arguments := ⟨[], operands, none⟩

/-- Reads the letters of one argument. `next` is what follows it. The second part tells that the
value of the last letter was the next argument. -/
def readLetters (letters : Letters) (next : Option Raw) : Raw → Arguments × Bool
  | [] => (ofOperands [], false)
  | c :: s =>
    match letters.lookup c, s, next with
    | none, _, _ => (⟨[], [], some ("invalid option -- '" ++ c.toString ++ "'")⟩, false)
    | some false, s, _ =>
      let (a, used) := readLetters letters next s
      ({ a with options := (c, []) :: a.options }, used)
    | some true, [], some v => (⟨[(c, v)], [], none⟩, true)
    | some true, [], none =>
      (⟨[], [], some ("option requires an argument -- '" ++ c.toString ++ "'")⟩, false)
    | some true, v, _ => (⟨[(c, v)], [], none⟩, false)

/-- Puts what was read of one argument in front of what was read of the others. -/
def join (a b : Arguments) : Arguments :=
  ⟨a.options ++ b.options, a.operands ++ b.operands, a.problem.or b.problem⟩

/-- Reads arguments. Options may stand behind operands when `mixed` says so; behind two dashes there
are operands alone. -/
def read (letters : Letters) (mixed : Bool) : List Raw → Arguments
  | [] => ofOperands []
  | ['-', '-'] :: rest => ofOperands rest
  | ('-' :: '-' :: s) :: _ => ⟨[], [], some ("unrecognized option '--" ++ String.ofList s ++ "'")⟩
  | ('-' :: c :: s) :: rest =>
    match rest, readLetters letters rest.head? (c :: s) with
    | [], (a, _) => a
    | _ :: more, (a, true) => a.join (read letters mixed more)
    | next :: more, (a, false) => a.join (read letters mixed (next :: more))
  | a :: rest =>
    if mixed then (ofOperands [a]).join (read letters mixed rest) else ofOperands (a :: rest)

/-- Replaces options with long names by their letters. -/
def shortened (names : List (String × Char)) : List Raw → List Raw
  | [] => []
  | ['-', '-'] :: rest => ['-', '-'] :: rest
  | ('-' :: '-' :: s) :: rest =>
    let name := String.ofList (s.takeWhile (· ≠ '='))
    let value := (s.dropWhile (· ≠ '=')).drop 1
    match names.lookup name with
    | some c => ('-' :: c :: value) :: shortened names rest
    | none => ('-' :: '-' :: s) :: shortened names rest
  | a :: rest => a :: shortened names rest

end Arguments

/-- Reads the arguments of a utility and goes on with them. Without operands where some are needed
there is a complaint. -/
def withArguments (j : Job) (letters : Letters) (needed : Option String)
    (act : Arguments → Effect) : Effect :=
  let a := Arguments.read letters true j.arguments
  match a.problem, needed with
  | some m, _ => j.misused m
  | none, some what => if a.operands.isEmpty then j.misused ("missing " ++ what) else act a
  | none, none => act a

end Job

end ClarityCheck.Host
