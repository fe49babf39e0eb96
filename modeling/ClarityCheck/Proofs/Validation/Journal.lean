import ClarityCheck.Validation.Run
import Mathlib.Data.List.Basic

/-!
# Journals

Executors, fetchers and providers can be made to write down what they are asked and what they
answer. The journal lies beside the state of the scene, so that an operation runs as it would
without one.

* `noted`: an executor, a fetcher or a searcher writes down what it does
* `Happening.run`: validations and what happens between them, one after the other
-/

namespace ClarityCheck

variable {σ : Type}

/-- What programs, servers and providers are asked, and their answers. -/
inductive Event where
  | ran (request : Run.Request) (token : Token) (outcome : Run.Outcome)
  | fetched (url : Url) (destination : Path) (limit : Duration)
      (result : Except Download.Failure Nat)
  | ensured (result : Except Compiler.Unavailable Compiler.Binary)
  | invalidated
  deriving DecidableEq

/-- What has been written down, the oldest event first. -/
abbrev Journal := List Event

/-! ## Scenes with a journal -/

namespace Scene

/-- The scene with a journal. -/
def noting (s : Scene σ) (j : Journal) : Scene (Journal × σ) := { s with state := (j, s.state) }

/-- The journal of a scene. -/
def journal (s : Scene (Journal × σ)) : Journal := s.state.1

/-- The scene without its journal. -/
def plain (s : Scene (Journal × σ)) : Scene σ := { s with state := s.state.2 }

variable (s : Scene σ) (j : Journal) (files : Files)

@[simp] theorem journal_noting : (s.noting j).journal = j := rfl

@[simp] theorem plain_noting : (s.noting j).plain = s := rfl

@[simp] theorem noting_journal (s : Scene (Journal × σ)) : s.plain.noting s.journal = s := rfl

@[simp] theorem files_noting : (s.noting j).files = s.files := rfl

@[simp] theorem isCancelled_noting (t : Token) : t.isCancelled (s.noting j) = t.isCancelled s := by
  cases t <;> rfl

/-- Files change beside the journal. -/
theorem withFiles_noting : { s.noting j with files } = { s with files }.noting j := rfl

end Scene

/-! ## Writing down -/

/-- The executor that writes down what it runs. -/
def Run.Executor.noted (e : Run.Executor σ) : Run.Executor (Journal × σ) := fun r t s =>
  match e r t s.plain with
  | (outcome, s') => (outcome, s'.noting (s.journal ++ [.ran r t outcome]))

/-- The fetcher that writes down what it fetches. -/
def Download.Fetcher.noted (f : Download.Fetcher σ) : Download.Fetcher (Journal × σ) :=
  fun url destination limit s =>
    match f url destination limit s.plain with
    | (result, s') => (result, s'.noting (s.journal ++ [.fetched url destination limit result]))

/-- The searcher that writes down what it runs and fetches. -/
def Compiler.Searcher.noted (s : Compiler.Searcher σ) : Compiler.Searcher (Journal × σ) where
  plan := s.plan
  executor := s.executor.noted
  fetcher := s.fetcher.noted

/-- An executor with a journal writes down how the program ended. -/
theorem Run.Executor.noted_apply {e : Run.Executor σ} {r : Run.Request} {t : Token}
    {outcome : Run.Outcome} {s s' : Scene σ} (h : e r t s = (outcome, s')) (j : Journal) :
    e.noted r t (s.noting j) = (outcome, s'.noting (j ++ [.ran r t outcome])) := by
  simp only [Run.Executor.noted, Scene.plain_noting, Scene.journal_noting, h]

/-- A fetcher with a journal writes down what came of the address. -/
theorem Download.Fetcher.noted_apply {f : Download.Fetcher σ} {url : Url} {destination : Path}
    {limit : Duration} {result : Except Download.Failure Nat} {s s' : Scene σ}
    (h : f url destination limit s = (result, s')) (j : Journal) :
    f.noted url destination limit (s.noting j) =
      (result, s'.noting (j ++ [.fetched url destination limit result])) := by
  simp only [Download.Fetcher.noted, Scene.plain_noting, Scene.journal_noting, h]

/-! ## Histories of validations -/

namespace Validation

/-- The world with a journal. -/
def World.noting (w : World σ) (j : Journal) : World (Journal × σ) :=
  ⟨w.scene.noting j, w.memory, w.ticket⟩

/-- The journal of a world. -/
def World.journal (w : World (Journal × σ)) : Journal := w.scene.journal

/-- The world without its journal. -/
def World.plain (w : World (Journal × σ)) : World σ := ⟨w.scene.plain, w.memory, w.ticket⟩

@[simp] theorem World.journal_noting (w : World σ) (j : Journal) : (w.noting j).journal = j := rfl

@[simp] theorem World.plain_noting (w : World σ) (j : Journal) : (w.noting j).plain = w := rfl

@[simp] theorem World.scene_noting (w : World σ) (j : Journal) :
    (w.noting j).scene = w.scene.noting j := rfl

@[simp] theorem World.memory_noting (w : World σ) (j : Journal) :
    (w.noting j).memory = w.memory := rfl

@[simp] theorem World.ticket_noting (w : World σ) (j : Journal) :
    (w.noting j).ticket = w.ticket := rfl

/-- The provider that writes down what it is asked. -/
def Provider.noted (p : Provider σ) : Provider (Journal × σ) where
  ensure w :=
    match p.ensure w.plain with
    | (result, w') => (result, w'.noting (w.journal ++ [.ensured result]))
  invalidate w := (p.invalidate w.plain).noting (w.journal ++ [.invalidated])

theorem Provider.noted_ensure {p : Provider σ} {w w' : World σ}
    {result : Except Compiler.Unavailable Compiler.Binary} (h : p.ensure w = (result, w'))
    (j : Journal) : p.noted.ensure (w.noting j) = (result, w'.noting (j ++ [.ensured result])) := by
  simp only [Provider.noted, World.plain_noting, World.journal_noting, h]

@[simp] theorem Provider.noted_invalidate (p : Provider σ) (w : World σ) (j : Journal) :
    p.noted.invalidate (w.noting j) = (p.invalidate w).noting (j ++ [.invalidated]) := rfl

/-- The validator whose provider and executor write down what they are asked. -/
def Validator.noted (v : Validator σ) : Validator (Journal × σ) where
  provider := v.provider.noted
  executor := v.executor.noted
  root := v.root
  limits := v.limits

/-- What happens to a world: a validation, or something else that changes the scene. -/
inductive Happening (σ : Type) where
  | validate (contract : Contract) (token : Token)
  | meanwhile (change : Scene σ → Scene σ)

namespace Happening

/-- The world after a happening. -/
def take (v : Validator σ) (w : World σ) : Happening σ → World σ
  | validate contract token => (v.validate contract token w).2
  | meanwhile change => { w with scene := change w.scene }

/-- The world after several happenings. -/
def run (v : Validator σ) (w : World σ) (hs : List (Happening σ)) : World σ := hs.foldl (take v) w

/-- The happening beside a journal. -/
def noted : Happening σ → Happening (Journal × σ)
  | validate contract token => validate contract token
  | meanwhile change => meanwhile fun s => (change s.plain).noting s.journal

theorem run_concat (v : Validator σ) (w : World σ) (hs : List (Happening σ)) (h : Happening σ) :
    run v w (hs ++ [h]) = h.take v (run v w hs) := by
  simp [run]

end Happening

end Validation

end ClarityCheck
