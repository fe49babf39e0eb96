import ClarityCheck.Duration
import ClarityCheck.SystemError

/-!
# Outcomes of a run

A run that ends by itself has an output, whatever its status. A run that cannot be started, takes
too long, is cancelled or cannot be watched is a failure, which names the program.
-/

namespace ClarityCheck.Run

/-- What a finished run leaves. The status is missing when a signal ended the process. -/
structure Output where
  status : Option Int
  stdout : String
  stderr : String
  truncated : Bool
  deriving DecidableEq, Repr

/-- A run succeeds when its status is zero. -/
def Output.success (o : Output) : Bool := o.status == some 0

/-- Why a run did not finish. -/
inductive Failure.Cause where
  | notStarted (error : SystemError)
  | timedOut (limit : Duration)
  | cancelled
  | unwatched (error : SystemError)
  /-- The deadline lies beyond what the clock can show. -/
  | noDeadline
  deriving DecidableEq, Repr

/-- A run that did not finish, with the name of its program. -/
structure Failure where
  program : String
  cause : Failure.Cause
  deriving DecidableEq, Repr

namespace Failure

/-- The wording of a failure. -/
def message (f : Failure) : String :=
  match f.cause with
  | .notStarted e => "failed to start '" ++ f.program ++ "': " ++ e.message
  | .timedOut limit => "'" ++ f.program ++ "' timed out after " ++ limit.text
  | .cancelled => "'" ++ f.program ++ "' was cancelled"
  | .unwatched e => "I/O error while running '" ++ f.program ++ "': " ++ e.message
  | .noDeadline => "overflow when adding duration to instant"

/-- The program itself could not be started. -/
def isStartFailure (f : Failure) : Bool :=
  match f.cause with
  | .notStarted _ => true
  | _ => false

end Failure

/-- The outcome of a run. -/
abbrev Outcome := Except Failure Output

/-- The outcome of a run that could not start its program. -/
def Outcome.isStartFailure : Outcome → Bool
  | .error f => f.isStartFailure
  | .ok _ => false

end ClarityCheck.Run
