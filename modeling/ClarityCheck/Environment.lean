import ClarityCheck.Path
import ClarityCheck.Text.Cut

/-!
# The environment of a process

The variables of a process are a list of texts, each a name and a value with an equals sign between
them. A name is looked up among the texts, so that a name with an equals sign of its own may find
the first part of a value. Beside them the system knows the user that the process runs for, who may
have a home directory.
-/

namespace ClarityCheck

/-- An environment variable. -/
structure Variable where
  name : String
  value : String
  deriving DecidableEq, Repr

/-- What surrounds a process. -/
structure Environment where
  /-- The variables, in the order in which the process was given them. -/
  bindings : List Variable
  /-- The home directory that the system has on record for the user. It may be missing, and need not
  be text. -/
  recordedHome : Option Path
  deriving Repr

namespace Environment

/-- The environment with one more variable, behind the others. -/
def adding (e : Environment) (v : Variable) : Environment :=
  { e with bindings := e.bindings ++ [v] }

/-- A variable as the process holds it. -/
def entry (v : Variable) : List Char := v.name.toList ++ '=' :: v.value.toList

/-- The value of a variable, if it is set. -/
def get? (e : Environment) (name : String) : Option String :=
  if name = "" ∨ name.toList.contains '\x00' then none
  else (e.bindings.findSome? fun v => Text.dropStart? (name.toList ++ ['=']) (entry v)).map
    String.ofList

/-! ## Directories -/

/-- The user's home directory: the one that the environment names, or else the one on record. -/
def home? (e : Environment) : Option Path :=
  match e.get? "HOME" with
  | none | some "" => e.recordedHome
  | some h => some (.ofString h)

/-- The directory that a variable names, if it names an absolute one. -/
def absolute? (e : Environment) (name : String) : Option Path :=
  ((e.get? name).map Path.ofString).filter Path.isAbsolute

/-- The user's directory for what can be fetched again. A user without a home directory has none
unless the environment names it. -/
def cacheHome? (e : Environment) : Option Path :=
  (e.absolute? "XDG_CACHE_HOME").or (e.home?.map (·.join (.ofString ".cache")))

/-- The directory for temporary files. -/
def temporary (e : Environment) : Path :=
  .ofString ((e.get? "TMPDIR").getD "/tmp")

end Environment

end ClarityCheck
