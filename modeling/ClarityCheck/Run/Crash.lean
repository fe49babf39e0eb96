import ClarityCheck.Download.Fetcher
import ClarityCheck.Run.Executor

/-!
# Crashes

A run whose deadline cannot be written down is a failure that nobody handles: it ends everything
that waits for it. The scene of the first such run is kept beside the state, so that what would come
after it can be given up.
-/

namespace ClarityCheck

variable {σ : Type}

namespace Run

/-- Nobody handles the failure. -/
def Failure.isCrash (f : Failure) : Bool := f.cause == .noDeadline

/-- The failure of an outcome, if nobody handles it. -/
def Outcome.crash? : Outcome → Option Failure
  | .ok _ => none
  | .error f => if f.isCrash then some f else none

/-- A failure that nobody handles, and the scene that it leaves. -/
structure Crash (σ : Type) where
  failure : Failure
  scene : Scene σ

/-- A state with the first crash beside it, once there has been one. -/
abbrev Watched (σ : Type) := Option (Crash σ) × σ

end Run

namespace Scene

/-- The scene with a crash beside its state. -/
def watched (s : Scene σ) (crash : Option (Run.Crash σ)) : Scene (Run.Watched σ) :=
  { s with state := (crash, s.state) }

/-- The scene without what is kept of crashes. -/
def unwatched (s : Scene (Run.Watched σ)) : Scene σ := { s with state := s.state.2 }

/-- The first crash, if there has been one. -/
def crash? (s : Scene (Run.Watched σ)) : Option (Run.Crash σ) := s.state.1

@[simp] theorem crash?_watched (s : Scene σ) (crash : Option (Run.Crash σ)) :
    (s.watched crash).crash? = crash := rfl

@[simp] theorem unwatched_watched (s : Scene σ) (crash : Option (Run.Crash σ)) :
    (s.watched crash).unwatched = s := rfl

@[simp] theorem files_watched (s : Scene σ) (crash : Option (Run.Crash σ)) :
    (s.watched crash).files = s.files := rfl

end Scene

/-- The executor that keeps the first crash. -/
def Run.Executor.watched (e : Run.Executor σ) : Run.Executor (Run.Watched σ) := fun r t s =>
  let (outcome, scene) := e r t s.unwatched
  (outcome, scene.watched (s.crash?.or (outcome.crash?.map (⟨·, scene⟩))))

/-- The fetcher beside an executor that keeps the first crash. -/
def Download.Fetcher.watched (f : Download.Fetcher σ) : Download.Fetcher (Run.Watched σ) :=
  fun url destination limit s =>
    let (result, scene) := f url destination limit s.unwatched
    (result, scene.watched s.crash?)

end ClarityCheck
