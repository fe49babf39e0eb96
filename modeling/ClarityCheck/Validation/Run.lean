import ClarityCheck.Compiler.Search
import ClarityCheck.Validation.Verdict
import ClarityCheck.Workspace.Staging

/-!
# Validating a contract

A validation gets a compiler, stages the contract, runs the compiler in the staged project and
removes the project. Whatever goes wrong becomes a verdict. A compiler that could not be started is
doubted from then on.
-/

namespace ClarityCheck.Validation

variable {σ : Type}

/-- The surroundings of validations, together with what is remembered from one to the next. -/
structure World (σ : Type) where
  scene : Scene σ
  memory : Compiler.Memory
  /-- The next ticket for the name of a project's directory. -/
  ticket : Nat

/-- Where validations get their compiler. -/
structure Provider (σ : Type) where
  ensure : World σ → Except Compiler.Unavailable Compiler.Binary × World σ
  invalidate : World σ → World σ

/-- The provider that searches for a compiler. -/
def searching (s : Compiler.Searcher σ) : Provider σ where
  ensure w :=
    match s.ensure w.memory w.scene with
    | (r, memory, scene) => (r, { w with memory, scene })
  invalidate w := { w with memory := w.memory.invalidate }

/-- The limits of a run of the compiler. -/
structure Limits where
  timeout : Duration := Run.defaultTimeout
  output : Nat := Run.defaultOutputLimit
  deriving DecidableEq, Repr

/-- The argument that makes the compiler check a project. -/
def checkCommand : String := "check"

/-- What a validation depends on. -/
structure Validator (σ : Type) where
  provider : Provider σ
  executor : Run.Executor σ
  root : Path
  limits : Limits

namespace Validator

/-- The request that checks a project. -/
def request (v : Validator σ) (binary : Compiler.Binary) (project : Workspace.Project) :
    Run.Request :=
  { (Run.Request.of binary.path).textArgument checkCommand with
    directory := some project.directory, timeout := v.limits.timeout,
    outputLimit := v.limits.output }

/-- Checks a staged project and removes it. -/
def check (v : Validator σ) (binary : Compiler.Binary) (project : Workspace.Project) (t : Token)
    (w : World σ) : Verdict × World σ :=
  match v.executor (v.request binary project) t w.scene with
  | (outcome, scene) =>
    let w := { w with scene := { scene with files := project.drop scene.files } }
    let w := if outcome.isStartFailure then v.provider.invalidate w else w
    (.classify outcome, w)

/-- Validates a contract. -/
def validate (v : Validator σ) (contract : Contract) (t : Token) (w : World σ) :
    Verdict × World σ :=
  if t.isCancelled w.scene then (.failure cancelledEarly, w)
  else
    match v.provider.ensure w with
    | (.error _, w) => (.unavailable, w)
    | (.ok binary, w) =>
      match Workspace.stage v.root contract w.ticket w.scene.files with
      | (.error e, ticket, files) =>
        (.failure e.message, { w with ticket, scene := { w.scene with files } })
      | (.ok project, ticket, files) =>
        v.check binary project t { w with ticket, scene := { w.scene with files } }

end Validator

end ClarityCheck.Validation
