import ClarityCheck.Environment
import ClarityCheck.Settings.Basic

/-!
# Settings in an environment

What the settings come to in the environment of the process: directories that are not set, and
whether the process runs in the hosted build environment.
-/

namespace ClarityCheck.Settings

/-- The name of the tool's own directory in the directory for what can be fetched again. -/
def ownDirectory : String := "clarigate"

/-- Where downloads are kept when the settings do not say: below the user's directory for what can
be fetched again, or below the one for temporary files if there is none or its path is no text. -/
def defaultCachePath (e : Environment) : Path :=
  let base := (e.cacheHome?.filter Path.isText).getD e.temporary
  (base.join (.ofString ownDirectory)).join (.ofString "bin")

/-- Where downloads are kept. -/
def cachePath (s : Settings) (e : Environment) : Path :=
  match s.cacheDirectory with
  | some p => .ofString p
  | none => defaultCachePath e

/-- Where projects are staged. -/
def workspacePath (s : Settings) (e : Environment) : Path :=
  match s.workspaceRoot with
  | some p => .ofString p
  | none => e.temporary

/-- The process runs in the hosted build environment. -/
def isHosted (s : Settings) (e : Environment) : Bool := (e.get? s.hostedVariable).isSome

end ClarityCheck.Settings
