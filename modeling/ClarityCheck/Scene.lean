import ClarityCheck.Files.Change

/-!
# Scenes

What operations see and change outside the library: the file system, whether the caller has
cancelled, and whatever else the programs that are run keep for themselves.
-/

namespace ClarityCheck

/-- The surroundings of an operation. -/
structure Scene (σ : Type) where
  files : Files
  /-- The caller has cancelled. -/
  cancelled : Bool
  /-- What programs and servers keep for themselves. -/
  state : σ

/-- A way to tell an operation to stop. -/
inductive Token where
  /-- The caller's token, which a scene keeps track of. -/
  | shared
  /-- A token of its own, which nobody cancels. -/
  | fresh
  deriving DecidableEq, Repr

/-- The token has been cancelled. -/
def Token.isCancelled {σ : Type} (t : Token) (s : Scene σ) : Bool :=
  match t with
  | .shared => s.cancelled
  | .fresh => false

end ClarityCheck
