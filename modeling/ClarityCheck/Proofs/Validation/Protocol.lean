import ClarityCheck.Proofs.Validation.Journal
import ClarityCheck.Proofs.Workspace.Staging
import Mathlib.Data.List.Induction

/-!
# What a validation asks of others

`Protocol` tells in four cases what a validation asks its provider and its executor, in which order,
and what comes of their answers. A provider is told to doubt a compiler as often as a check fails to
start.

* `validate_protocol`: a validation with a journal is one of the four cases
* `protocol_of_history`: the same after any history, and the numbers of failed starts and doubts
-/

namespace ClarityCheck.Validation

open Compiler Workspace

variable {σ : Type}

/-! ## The four cases -/

/-- The world after a check whose project has been staged and whose program has run. -/
def cleaned (w : World σ) (ticket : Nat) (scene : Scene σ) (project : Project) : World σ :=
  { w with ticket, scene := { scene with files := project.drop scene.files } }

/-- What a validation can do in a world: its verdict, what it asks and is answered, and the world
that it leaves. -/
inductive Protocol (v : Validator σ) (contract : Contract) (t : Token) (w : World σ) :
    Verdict → Journal → World σ → Prop
  /-- Nobody is asked anything. -/
  | cancelled (hc : t.isCancelled w.scene = true) :
    Protocol v contract t w (.failure "validation cancelled") [] w
  /-- There is no compiler. -/
  | unavailable {e : Unavailable} {w' : World σ} (hc : t.isCancelled w.scene = false)
      (he : v.provider.ensure w = (.error e, w')) :
    Protocol v contract t w (.failure "compiler unavailable") [.ensured (.error e)] w'
  /-- The contract cannot be staged. -/
  | notStaged {b : Binary} {w' : World σ} {e : StagingError} {ticket : Nat} {files : Files}
      (hc : t.isCancelled w.scene = false) (he : v.provider.ensure w = (.ok b, w'))
      (hs : stage v.root contract w'.ticket w'.scene.files = (.error e, ticket, files)) :
    Protocol v contract t w (.failure e.message) [.ensured (.ok b)]
      { w' with ticket, scene := { w'.scene with files } }
  /-- The compiler runs in a new project. -/
  | checked {b : Binary} {w' : World σ} {project : Project} {ticket : Nat} {files : Files}
      {place : Location} {request : Run.Request} {outcome : Run.Outcome} {scene : Scene σ}
      (hc : t.isCancelled w.scene = false) (he : v.provider.ensure w = (.ok b, w'))
      (hs : stage v.root contract w'.ticket w'.scene.files = (.ok project, ticket, files))
      (staged : Staged v.root contract w'.scene.files files project place)
      (hq : request = ⟨b.path, [Text.Utf8.encode "check".toList], some project.directory,
        v.limits.timeout, v.limits.output⟩)
      (hr : v.executor request t { w'.scene with files } = (outcome, scene)) :
    Protocol v contract t w (.classify outcome)
      (.ensured (.ok b) :: .ran request t outcome ::
        if outcome.isStartFailure then [.invalidated] else [])
      (if outcome.isStartFailure then v.provider.invalidate (cleaned w' ticket scene project)
      else cleaned w' ticket scene project)

/-- A check of a staged project, with and without a journal. -/
theorem noted_check {v : Validator σ} {b : Binary} {project : Project} {t : Token} {w : World σ}
    {outcome : Run.Outcome} {scene : Scene σ}
    (hr : v.executor (v.request b project) t w.scene = (outcome, scene)) (j : Journal) :
    v.check b project t w = (.classify outcome,
        if outcome.isStartFailure then v.provider.invalidate (cleaned w w.ticket scene project)
        else cleaned w w.ticket scene project) ∧
      v.noted.check b project t (w.noting j) = (.classify outcome,
        (if outcome.isStartFailure then v.provider.invalidate (cleaned w w.ticket scene project)
        else cleaned w w.ticket scene project).noting (j ++ .ran (v.request b project) t outcome ::
          if outcome.isStartFailure then [.invalidated] else [])) := by
  have hr' : v.noted.executor (v.noted.request b project) t (w.noting j).scene =
      (outcome, scene.noting (j ++ [.ran (v.request b project) t outcome])) :=
        Run.Executor.noted_apply hr j
  constructor
  · simp only [Validator.check, hr]
    rfl
  · have hw : ({ w.noting j with
          scene := { scene.noting (j ++ [.ran (v.request b project) t outcome]) with
            files := project.drop scene.files } } : World (Journal × σ)) =
        (cleaned w w.ticket scene project).noting
          (j ++ [.ran (v.request b project) t outcome]) := rfl
    simp only [Validator.check, hr', Scene.files_noting, hw]
    cases outcome.isStartFailure with
    | true =>
      show (_, v.provider.noted.invalidate _) = _
      rw [Provider.noted_invalidate, List.append_assoc]
      rfl
    | false => rfl

/-- A validation is one of the four cases, and its journal holds what the case says. -/
theorem validate_protocol (v : Validator σ) (contract : Contract) (t : Token) (w : World σ)
    (j : Journal) :
    ∃ verdict es w', v.validate contract t w = (verdict, w') ∧
      v.noted.validate contract t (w.noting j) = (verdict, w'.noting (j ++ es)) ∧
      Protocol v contract t w verdict es w' := by
  cases hc : t.isCancelled w.scene with
  | true =>
    refine ⟨_, [], w, ?_, ?_, .cancelled hc⟩
    · simp only [Validator.validate, hc, ↓reduceIte]
      rfl
    · simp only [Validator.validate, World.scene_noting, Scene.isCancelled_noting, hc, ↓reduceIte,
        List.append_nil]
      rfl
  | false =>
  rcases he : v.provider.ensure w with ⟨e | b, w₁⟩
  · have he' : v.noted.provider.ensure (w.noting j) = _ := Provider.noted_ensure he j
    refine ⟨_, _, w₁, ?_, ?_, .unavailable hc he⟩
    · simp only [Validator.validate, hc, he]
      rfl
    · simp only [Validator.validate, World.scene_noting, Scene.isCancelled_noting, hc, he']
      rfl
  have he' : v.noted.provider.ensure (w.noting j) = _ := Provider.noted_ensure he j
  have hstage := stage_spec v.root contract w₁.ticket w₁.scene.files
  rcases hs : stage v.root contract w₁.ticket w₁.scene.files with ⟨e | project, ticket, files⟩
  · have hs' : stage v.noted.root contract w₁.ticket w₁.scene.files = _ := hs
    refine ⟨_, _, _, ?_, ?_, .notStaged hc he hs⟩
    · simp only [Validator.validate, hc, he, hs]
      rfl
    · simp only [Validator.validate, World.scene_noting, World.ticket_noting, Scene.files_noting,
        Scene.isCancelled_noting, hc, he', hs']
      rfl
  rw [hs] at hstage
  obtain ⟨place, staged⟩ := hstage
  rcases hr : v.executor (v.request b project) t { w₁.scene with files } with ⟨outcome, scene⟩
  have hs' : stage v.noted.root contract w₁.ticket w₁.scene.files = _ := hs
  obtain ⟨hplain, hnoted⟩ :=
    noted_check (w := { w₁ with ticket, scene := { w₁.scene with files } }) hr
    (j ++ [.ensured (.ok b)])
  refine ⟨_, _, _, ?_, ?_, .checked hc he hs staged rfl hr⟩
  · simp only [Validator.validate, hc, he, hs]
    exact hplain
  · simp only [Validator.validate, World.scene_noting, World.ticket_noting, Scene.files_noting,
      Scene.isCancelled_noting, hc, he', hs']
    rw [← List.append_cons] at hnoted
    exact hnoted

/-! ## Doubts -/

/-- A program could not be started. -/
def isFailedStart : Event → Bool
  | .ran _ _ outcome => outcome.isStartFailure
  | _ => false

/-- The provider is told to doubt its compiler. -/
def isDoubt : Event → Bool
  | .invalidated => true
  | _ => false

/-- A compiler is doubted as often as one could not be started. -/
def Balanced (j : Journal) : Prop := j.countP isDoubt = j.countP isFailedStart

theorem Balanced.append {j es : Journal} (h : Balanced j) (hes : Balanced es) :
    Balanced (j ++ es) := by
  unfold Balanced at *
  rw [List.countP_append, List.countP_append, h, hes]

theorem Protocol.balanced {v : Validator σ} {contract : Contract} {t : Token} {w w' : World σ}
    {verdict : Verdict} {es : Journal} (h : Protocol v contract t w verdict es w') :
    Balanced es := by
  cases h with
  | cancelled => rfl
  | unavailable => rfl
  | notStaged => rfl
  | @checked _ _ _ _ _ _ _ outcome =>
    unfold Balanced
    cases ho : outcome.isStartFailure <;> simp [isDoubt, isFailedStart, ho]

/-- A history with a journal leaves what the history leaves. -/
theorem noted_run (v : Validator σ) (w : World σ) (hs : List (Happening σ)) :
    ∃ j, Happening.run v.noted (w.noting []) (hs.map Happening.noted) =
        (Happening.run v w hs).noting j ∧ Balanced j := by
  induction hs using List.reverseRecOn with
  | nil => exact ⟨[], rfl, rfl⟩
  | append_singleton hs h ih =>
    obtain ⟨j, hj, hb⟩ := ih
    rw [List.map_append, List.map_singleton, Happening.run_concat, Happening.run_concat, hj]
    cases h with
    | validate contract t =>
      obtain ⟨verdict, es, w', hplain, hnoted, hp⟩ :=
        validate_protocol v contract t (Happening.run v w hs) j
      refine ⟨j ++ es, ?_, hb.append hp.balanced⟩
      simp only [Happening.take, Happening.noted, hplain, hnoted]
    | meanwhile change => exact ⟨j, rfl, hb⟩

/-- After every history of validations and other changes a validation is one of the four cases. In
the whole journal a compiler is doubted as often as one could not be started. -/
theorem protocol_of_history (v : Validator σ) (w : World σ) (hs : List (Happening σ))
    (contract : Contract) (t : Token) :
    ∃ j es verdict w',
      Happening.run v.noted (w.noting []) (hs.map Happening.noted) =
        (Happening.run v w hs).noting j ∧
      v.validate contract t (Happening.run v w hs) = (verdict, w') ∧
      v.noted.validate contract t ((Happening.run v w hs).noting j) =
        (verdict, w'.noting (j ++ es)) ∧
      Protocol v contract t (Happening.run v w hs) verdict es w' ∧
      (j ++ es).countP isDoubt = (j ++ es).countP isFailedStart := by
  obtain ⟨j, hj, hb⟩ := noted_run v w hs
  obtain ⟨verdict, es, w', hplain, hnoted, hp⟩ :=
    validate_protocol v contract t (Happening.run v w hs) j
  exact ⟨j, es, verdict, w', hj, hplain, hnoted, hp, hb.append hp.balanced⟩

end ClarityCheck.Validation
