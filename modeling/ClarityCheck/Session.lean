import ClarityCheck.CommandLine.Invocation
import ClarityCheck.Lint.Check
import ClarityCheck.Settings.Load
import ClarityCheck.Settings.LogFilter
import ClarityCheck.Validation.Setup

/-!
# Sessions

A session is one call of the tool. The options for settings at the front of the command line are
split off, the rest names a command and a file. A session ends with information that was asked for,
with an error, or with the report on the file, unless a crash ends it first.
-/

namespace ClarityCheck

open CommandLine

namespace Session

/-! ## How a session ends -/

/-- Why a session has no report. -/
inductive Error where
  | settings (error : Settings.LoadError)
  | problem (problem : Settings.Problem)
  | usage (text : String)
  | logFilter (problem : Settings.LogFilter.Problem)
  | unreadable (file : Path) (error : SystemError)
  | input (error : Contract.InputError)
  /-- Downloads cannot be prepared. -/
  | noDownloads (failure : Download.Failure)

/-- The wording of an error. -/
def Error.message : Error → String
  | .settings e => "failed to load configuration: " ++ e.message
  | .problem p => "invalid configuration: " ++ p.message
  | .usage text => text
  | .logFilter p => "invalid log filter: " ++ p.message
  | .unreadable file e => "failed to read " ++ file.display ++ ": " ++ e.message
  | .input e => e.message
  | .noDownloads f => "failed to prepare compiler download client: " ++ f.message

/-- How a session ends. -/
inductive Ending where
  /-- Help or the version. -/
  | information (text : String)
  | error (error : Error)
  /-- A report, and whether it is favourable. -/
  | report (text : String) (favourable : Bool)

namespace Ending

/-- What goes to the standard output. -/
def stdout : Ending → String
  | .information text | .report text _ => text
  | .error _ => ""

/-- What goes to the standard error. -/
def stderr : Ending → String
  | .error e => e.message ++ "\n"
  | .information _ | .report .. => ""

/-- The session is a success. -/
def success : Ending → Bool
  | .information _ => true
  | .error _ => false
  | .report _ favourable => favourable

/-- The exit status. -/
def status (e : Ending) : Nat := if e.success then 0 else 1

end Ending

/-! ## The parts of a command line -/

/-- A command line that is cut in front of its command. -/
structure Parts where
  /-- The word that calls the tool, and the options for settings. -/
  settings : List Bytes
  /-- The number of words in front of the command. -/
  start : Nat

namespace Parts

/-- One more word in front of the command. -/
def push (p : Parts) (word : Bytes) : Parts := ⟨p.settings ++ [word], p.start + 1⟩

/-- Moves the cut behind options for settings. An option that does not hold its value leaves it
pending, and takes the next word for it, whatever that is. -/
def advance (p : Parts) : (pending : Bool) → List Bytes → Parts
  | _, [] => p
  | true, word :: rest => (p.push word).advance false rest
  | false, word :: rest =>
    match Settings.Flags.isOption? word with
    | none => p
    | some joined => (p.push word).advance (!joined) rest

end Parts

/-- Splits a command line. -/
def split : List Bytes → Parts
  | [] => ⟨[], 0⟩
  | tool :: words => (⟨[tool], 1⟩ : Parts).advance false words

/-- The words that the command is read from, behind the one that calls the tool. -/
def commandWords (words : List Bytes) : List Bytes := words.take 1 ++ words.drop (split words).start

/-! ## Commands -/

/-- The result of what a crash may end: then a failure that nobody handles takes its place. -/
abbrev Ended (α : Type) := Except Run.Failure α

/-- The exit status after a crash. -/
def crashStatus : Nat := 101

/-- Something that validates contracts, unless downloads cannot be prepared. -/
abbrev Checker (σ : Type) :=
  Settings → Contract → Scene σ → Ended (Except Download.Failure Validation.Response) × Scene σ

variable {σ : Type}

/-- The error of a file that is no text. -/
def noText : SystemError := .text .invalidData Settings.Source.noText

/-- Reads the text of a file. -/
def readText (files : Files) (p : Path) : Except Error String :=
  match files.read p with
  | .error e => .error (.unreadable p e)
  | .ok content =>
    match Text.Utf8.decode? content with
    | some text => .ok (String.ofList text)
    | none => .error (.unreadable p noText)

/-- The settings of a session. -/
def settings (files : Files) (e : Environment) (words : List Bytes) : Except Error Settings :=
  match Settings.load files e (Invocation.calledAs words.head?) words.tail with
  | .error err => .error (.settings err)
  | .ok s =>
    match s.problem? with
    | some p => .error (.problem p)
    | none =>
      match Settings.LogFilter.problem? s.logFilter with
      | some p => .error (.logFilter p)
      | none => .ok s

/-- The name of a contract: the one that is given, or the name of its file without an extension. -/
def contractName (file : Path) (given : Option String) : String :=
  given.getD ((file.fileStem?.map fun n => (Path.mk n).display).getD "")

/-- The contract that a command checks. -/
def contract (files : Files) (file : Path) (name : Option String) : Except Error Contract :=
  match readText files file with
  | .error e => .error e
  | .ok body => (Contract.ofInput (contractName file name) body).mapError .input

/-- Reports on the structure of a file. -/
def lint (files : Files) (file : Path) (format : Report.Format) : Ending :=
  match readText files file with
  | .error e => .error e
  | .ok text => .report (Report.lint (Lint.check text) format) (Lint.check text).isValid

/-- Reports on a check of a file with the compiler. -/
def check (checker : Checker σ) (s : Settings) (file : Path) (name : Option String)
    (format : Report.Format) (scene : Scene σ) : Ended Ending × Scene σ :=
  match contract scene.files file name with
  | .error e => (.ok (.error e), scene)
  | .ok c =>
    match checker s c scene with
    | (.error crash, scene) => (.error crash, scene)
    | (.ok (.error f), scene) => (.ok (.error (.noDownloads f)), scene)
    | (.ok (.ok r), scene) => (.ok (.report (Report.validation r format) r.success), scene)

/-- Does what an invocation says. -/
def perform (checker : Checker σ) (s : Settings) (terminal : Bool) (i : Invocation)
    (scene : Scene σ) : Ended Ending × Scene σ :=
  let format := i.output.resolve terminal
  match i.command with
  | .lint file => (.ok (lint scene.files file format), scene)
  | .check file name => check checker s file name format scene

/-- A session from a command line to its end. The standard output may be a terminal. -/
def run (checker : Checker σ) (e : Environment) (terminal : Bool) (words : List Bytes)
    (scene : Scene σ) : Ended Ending × Scene σ :=
  match Invocation.ofWords (commandWords words) with
  | .information text => (.ok (.information text), scene)
  | .refused text => (.ok (.error (.usage text)), scene)
  | .run i =>
    match settings scene.files e (split words).settings with
    | .error err => (.ok (.error err), scene)
    | .ok s => perform checker s terminal i scene

/-- The checker that searches for a compiler and runs it. -/
def checking (e : Environment) (executor : Run.Executor σ) (fetcher : Download.Fetcher σ)
    (ticket : Nat) : Checker σ := fun s c scene =>
  let (r, scene) := Validation.validateOnce s e executor fetcher ticket c scene
  (r.map .ok, scene)

end Session

end ClarityCheck
