import ClarityCheck.Path
import ClarityCheck.SystemError

/-!
# Failed downloads

A download fails because no answer arrives, because the answer is not a success, or because its body
cannot be stored.
-/

namespace ClarityCheck.Download

/-- Why a download failed. -/
inductive Failure where
  /-- No answer arrived. -/
  | noAnswer (url cause : String)
  /-- The answer is not a success. -/
  | badStatus (url : String) (status : Nat)
  /-- The body could not be stored at a path. -/
  | notStored (path : Path) (error : SystemError)
  deriving DecidableEq, Repr

/-- The wording of a failure. -/
def Failure.message : Failure → String
  | .noAnswer url cause => "request to " ++ url ++ " failed: " ++ cause
  | .badStatus url status => "request to " ++ url ++ " returned HTTP " ++ toString status
  | .notStored path e => "failed to write artifact to " ++ path.display ++ ": " ++ e.message

end ClarityCheck.Download
