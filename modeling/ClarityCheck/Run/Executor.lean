import ClarityCheck.Run.Outcome
import ClarityCheck.Run.Request
import ClarityCheck.Scene

/-!
# Executors

An executor runs programs: it takes a request and a token and gives the outcome, and it may change
the scene on the way.
-/

namespace ClarityCheck.Run

/-- Something that runs programs. -/
abbrev Executor (σ : Type) := Request → Token → Scene σ → Outcome × Scene σ

/-- A request that was made, and whether its token had been cancelled. -/
structure Call where
  request : Request
  cancelled : Bool
  deriving DecidableEq, Repr

/-- An executor that also writes down what it is asked. -/
def Executor.recorded {σ : Type} (e : Executor σ) : Executor (List Call × σ) :=
  fun r t s =>
    let (outcome, s') := e r t { s with state := s.state.2 }
    (outcome, { s' with state := (s.state.1 ++ [⟨r, t.isCancelled s⟩], s'.state) })

end ClarityCheck.Run
