import ClarityCheck.Settings.Flags
import ClarityCheck.Settings.Source
import ClarityCheck.Settings.Variables

/-!
# Loading settings

The settings come from four layers: their usual values, a configuration file, environment variables
and the command line, each over the ones before it.

Main statement: `load_eq` (what loading comes to when every layer can be read).
-/

namespace ClarityCheck.Settings

open CommandLine

/-- Why settings are not loaded. -/
inductive LoadError where
  /-- The command line is refused, or asks for help. -/
  | commandLine (text : String)
  /-- Configuration files cannot be used. There is at least one. -/
  | files (first : Source.FileError) (others : List Source.FileError)
  /-- The configuration file cannot be put together with the other layers. -/
  | edition (reason : String)
  /-- The layers put together write no settings. -/
  | merge (error : DecodeError)
  deriving DecidableEq, Repr

/-- The wording of an error. -/
def LoadError.message : LoadError → String
  | .commandLine text => "Failed to parse command-line arguments: " ++ text
  | .files first [] => first.message
  | .files first others =>
    "multiple configuration errors:\n" ++ "\n".intercalate
      (((first :: others).zipIdx 1).map fun e => toString e.2 ++ ": " ++ e.1.message)
  | .edition reason =>
    "Failed to merge CLI with configuration: " ++ reason ++ " in TOML source string"
  | .merge e => "Failed to merge CLI with configuration: " ++ e.message

/-- The help for the options that give settings. -/
def flagsHelp (tool : String) : String := "Usage: " ++ (Flags.grammar tool).usage [] ++ "\n"

/-- The options that a command line gives for settings. Its first word calls the tool. -/
def readFlags (tool : String) (words : List Bytes) : Except LoadError (List Flags.Flag) :=
  match (Flags.grammar tool).parse words with
  | .ok p => .ok p.values
  | .error (.refused r) => .error (.commandLine r.text)
  | .error (.switch ..) => .error (.commandLine (flagsHelp tool))

/-- The settings of layers, the lowest of which has the usual values. -/
def merge (file environment flags : Layer) : Except LoadError Settings :=
  (ofMembers
    (Layer.above flags (Layer.above environment (Layer.above file default.members)))).mapError
    .merge

/-- Loads the settings that a command line, an environment and configuration files give. -/
def load (files : Files) (e : Environment) (tool : String) (words : List Bytes) :
    Except LoadError Settings :=
  match readFlags tool words with
  | .error e => .error e
  | .ok flags =>
    match Source.content files e (Flags.file? flags) with
    | .error (first, others) => .error (.files first others)
    | .ok ⟨_, some reason⟩ => .error (.edition reason)
    | .ok ⟨file, none⟩ => merge file (Variables.layer e.bindings) (Flags.layer flags)

/-- What loading comes to when every layer can be read. -/
theorem load_eq {files : Files} {e : Environment} {tool : String} {words : List Bytes}
    {flags : List Flags.Flag} {file : Layer} (hf : readFlags tool words = .ok flags)
    (hs : Source.content files e (Flags.file? flags) = .ok ⟨file, none⟩) :
    load files e tool words = merge file (Variables.layer e.bindings) (Flags.layer flags) := by
  simp [load, hf, hs]

end ClarityCheck.Settings
