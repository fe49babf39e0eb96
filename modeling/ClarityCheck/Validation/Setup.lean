import ClarityCheck.Run.Crash
import ClarityCheck.Settings.Resolved
import ClarityCheck.Validation.Run

/-!
# Validation under settings

What the settings and the environment come to for a validation: where a compiler is searched for,
where projects are staged, and the limits of a run. A crash ends a validation without a response.
-/

namespace ClarityCheck.Validation

variable {σ : Type}

/-- The plan for the search for a compiler. -/
def plan (s : Settings) (e : Environment) : Compiler.Plan where
  family := Host.Family.current (s.isHosted e)
  cacheDirectory := s.cachePath e
  hostedBinary := .ofString s.hostedBinary
  allowsDownload := s.downloadPolicy.permits (Host.Family.current (s.isHosted e)).isHosted
  release := ⟨s.releaseBase, s.compilerVersion⟩
  probeTimeout := s.probeTimeout
  downloadTimeout := s.downloadTimeout
  searchPath := Compiler.Plan.searchPathIn e none

/-- The validator for settings. -/
def validator (s : Settings) (e : Environment) (executor : Run.Executor σ)
    (fetcher : Download.Fetcher σ) : Validator σ where
  provider := searching ⟨plan s e, executor, fetcher⟩
  executor
  root := s.workspacePath e
  limits := ⟨s.checkTimeout, s.outputLimit.toNat⟩

/-- The provider that gives a search up at its first crash. -/
def Provider.unwound (p : Provider (Run.Watched σ)) : Provider (Run.Watched σ) where
  ensure w :=
    match p.ensure w with
    | (result, w') =>
      match w'.scene.crash? with
      | none => (result, w')
      | some c => (.error ⟨[]⟩, { w with scene := c.scene.watched (some c) })
  invalidate := p.invalidate

/-- The validator that gives a search up at its first crash. -/
def Validator.unwound (v : Validator (Run.Watched σ)) : Validator (Run.Watched σ) :=
  { v with provider := v.provider.unwound }

/-- What a validation that may have crashed answers: a crash takes the place of the response. -/
def answer (r : Verdict × World (Run.Watched σ)) : Except Run.Failure Response × Scene σ :=
  (match r.2.scene.crash? with
    | none => .ok r.1.toResponse
    | some c => .error c.failure,
    r.2.scene.unwatched)

/-- Validates a contract under settings, without anything remembered from before. After a crash the
project is removed all the same. -/
def validateOnce (s : Settings) (e : Environment) (executor : Run.Executor σ)
    (fetcher : Download.Fetcher σ) (ticket : Nat) (contract : Contract) (scene : Scene σ) :
    Except Run.Failure Response × Scene σ :=
  answer ((validator s e executor.watched fetcher.watched).unwound.validate contract .fresh
    ⟨scene.watched none, none, ticket⟩)

end ClarityCheck.Validation
