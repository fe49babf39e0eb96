import ClarityCheck.CommandLine.Help
import ClarityCheck.CommandLine.Scan
import ClarityCheck.Path
import ClarityCheck.Report

/-!
# Invocations

What a command line tells the tool to do. A command line names one of two commands and a file;
instead it may ask for help or the version, or be refused.
-/

namespace ClarityCheck

open CommandLine

/-- What the tool can do with a file. -/
inductive Command where
  /-- The structural check. -/
  | lint (file : Path)
  /-- The check with the compiler, perhaps under a given name. -/
  | check (file : Path) (name : Option String)
  deriving DecidableEq, Repr

/-- What the tool is told to do. -/
structure Invocation where
  output : Report.Choice := .auto
  command : Command
  deriving DecidableEq, Repr

namespace Invocation

/-- What a command line comes to. -/
inductive Reading where
  | run (i : Invocation)
  /-- Help or the version, which the user asked for. -/
  | information (text : String)
  /-- A command line that is refused, with the reason. -/
  | refused (text : String)
  deriving DecidableEq, Repr

/-- The name of the tool. -/
def toolName : String := "clarigate"

/-- The name that the first word of a command line calls the tool by, if it ends in a name. -/
def calledAs? (first : Option Bytes) : Option String :=
  (first.bind fun w => Path.fileName? ⟨w⟩).bind text?

/-- The name of the tool for usage lines. -/
def calledAs (first : Option Bytes) : String := (calledAs? first).getD toolName

/-- The words that call a subcommand, which is called by its own name when the tool has none. -/
def subcommand (tool : Option String) (name : String) : String :=
  " ".intercalate (tool.toList ++ [name])

/-! ## Grammars -/

/-- Reads the choice of a format. -/
def readChoice : ValueReader Report.Choice := fun bs =>
  match (text? bs).bind Report.Choice.ofName? with
  | some c => .ok c
  | none => .error .notPossible

/-- Reads the path of a file. -/
def readPath : ValueReader Path := fun bs => if bs = [] then .error .empty else .ok ⟨bs⟩

/-- The file that a command works on. -/
def file : Operand Path := ⟨"FILE", readPath⟩

/-- What may follow the structural check's name. -/
def lintGrammar (tool : Option String) : Grammar Empty Path where
  program := subcommand tool "lint"
  options := []
  operand := some file

/-- What may follow the name of the check with the compiler. -/
def checkGrammar (tool : Option String) : Grammar String Path where
  program := subcommand tool "check"
  options := [{ name := "name", placeholder := "NAME", read := readText }]
  operand := some file

/-- What may follow the name of the tool. -/
def toolGrammar (tool : Option String) : Grammar Report.Choice Empty where
  program := tool.getD toolName
  options :=
    [{ name := "output", placeholder := "OUTPUT", possible := Report.Choice.all.map (·.name),
       read := readChoice }]
  hasVersion := true
  commands := [("lint", (lintGrammar tool).names), ("check", (checkGrammar tool).names)]

/-! ## Reading -/

/-- What reading comes to that stops early, given the help of the command in short and in detail. -/
def stopped (help : Bool → String) : Stop → Reading
  | .switch .help detailed => .information (help detailed)
  | .switch .version _ => .information Help.version
  | .refused r => .refused r.text

/-- Reads what follows the structural check's name. -/
def readLint (tool : Option String) (words : List Bytes) : Except Reading Command :=
  let g := lintGrammar tool
  let read : Except Stop Command := do
    let p ← g.parse words
    return .lint (← p.requiredOperand g)
  read.mapError (stopped fun _ => Help.lint (g.usage []))

/-- Reads what follows the name of the check with the compiler. -/
def readCheck (tool : Option String) (words : List Bytes) : Except Reading Command :=
  let g := checkGrammar tool
  let read : Except Stop Command := do
    let p ← g.parse words
    return .check (← p.requiredOperand g) p.values.head?
  read.mapError (stopped fun _ => Help.check (g.usage []))

/-- Reads what follows the name of a command. -/
def readCommand (tool : Option String) (name : String) (words : List Bytes) :
    Except Reading Command :=
  if name = "lint" then readLint tool words else readCheck tool words

/-- The reading of a command line without a command: one that is empty shows the help. -/
def withoutCommand (g : Grammar Report.Choice Empty) (given : List String) : Reading :=
  if given = [] then .refused (Help.tool (g.usage []) false)
  else
    .refused (Refusal.text
      { fault := .missingSubcommand g.program (g.commands.map (·.1)), usage := some (g.usage []) })

/-- What a command line comes to. Its first word calls the tool. -/
def ofWords (words : List Bytes) : Reading :=
  let tool := calledAs? words.head?
  let g := toolGrammar tool
  let stopped := stopped (Help.tool (g.usage []))
  match scan g {} words.tail with
  | .error stop => stopped stop
  | .ok (p, none) =>
    match p.settled g with
    | .error stop => stopped stop
    | .ok p => withoutCommand g p.given
  | .ok (p, some (name, rest)) =>
    match readCommand tool name rest with
    | .error reading => reading
    | .ok command =>
      match p.settled g with
      | .error stop => stopped stop
      | .ok p => .run { output := p.values.head?.getD .auto, command }

end Invocation

end ClarityCheck
