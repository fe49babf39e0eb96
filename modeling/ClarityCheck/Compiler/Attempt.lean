import ClarityCheck.Download.Failure
import ClarityCheck.Release
import ClarityCheck.Run.Outcome
import ClarityCheck.Text.Blank

/-!
# Attempts to find a compiler

Each step of the search that finds no compiler leaves a note: which step it was and why it failed.
-/

namespace ClarityCheck.Compiler

/-- The steps of the search. -/
inductive Step where
  | reverify
  | cache
  | hostedBuild
  | searchPath
  | download
  deriving DecidableEq, Repr

/-- The name of a step. -/
def Step.name : Step → String
  | .reverify => "reverify"
  | .cache => "cache"
  | .hostedBuild => "hosted build"
  | .searchPath => "search path"
  | .download => "download"

/-- Why a step found no compiler. -/
inductive Reason where
  /-- There is no such file. -/
  | absent (path : Path)
  /-- The program did not tell its version. -/
  | refused (path : Path) (status : Option Int)
  /-- A program could not be run to its end. -/
  | notRun (failure : Run.Failure)
  /-- The step is switched off. -/
  | disabled
  /-- No release is published for this host. -/
  | noRelease
  /-- The release has no valid address. -/
  | badAddress (error : Release.InvalidAddress)
  /-- The directory for the compiler could not be created. -/
  | noDirectory (path : Path) (error : SystemError)
  /-- The archive could not be downloaded. -/
  | notFetched (failure : Download.Failure)
  /-- The archive could not be unpacked. -/
  | notUnpacked (status : Option Int) (stderr : String)
  /-- The unpacked file could not be made a program. -/
  | notMarked (path : Path) (error : SystemError)
  deriving DecidableEq, Repr

/-- The program that unpacks archives. -/
def unpacker : String := "tar"

/-- The argument that asks a compiler for its version. -/
def versionFlag : String := "--version"

/-- A status that may be missing, as notes show it. -/
def statusText : Option Int → String
  | some n => "Some(" ++ toString n ++ ")"
  | none => "None"

/-- The wording of a reason. -/
def Reason.text : Reason → String
  | .absent p => p.display ++ " not present"
  | .refused p status =>
    p.display ++ " " ++ versionFlag ++ " exited with status " ++ statusText status
  | .notRun f => f.message
  | .disabled => "disabled"
  | .noRelease => "no release artifact for this host"
  | .badAddress e => e.message
  | .noDirectory p e => "cannot create " ++ p.display ++ ": " ++ e.message
  | .notFetched f => f.message
  | .notUnpacked status stderr =>
    unpacker ++ " exited with status " ++ statusText status ++ ": " ++ Text.trimString stderr
  | .notMarked p e => "cannot mark " ++ p.display ++ " executable: " ++ e.message

/-- A step that found no compiler, and why. -/
structure Attempt where
  step : Step
  reason : Reason
  deriving DecidableEq, Repr

/-- The wording of an attempt. -/
def Attempt.text (a : Attempt) : String := a.step.name ++ ": " ++ a.reason.text

/-- No step found a compiler. -/
structure Unavailable where
  attempts : List Attempt
  deriving DecidableEq, Repr

/-- The wording of an unsuccessful search. -/
def Unavailable.message (_ : Unavailable) : String := "binary unavailable"

end ClarityCheck.Compiler
