import ClarityCheck.Proofs.Compiler.SearchChain
import Mathlib.Data.List.Induction

/-!
# Compilers are asked before they check

A search asks a program for its version before it takes it, and asks nothing else of it. What is
remembered as verified has therefore answered since a check last failed to start, which carries over
from one validation to the next.

* `noted_ensure`: what a search for a compiler writes down
* `probed_before_check`: every check follows an answer of its program, with no failed start in
  between
-/

namespace ClarityCheck

open Compiler Validation

variable {σ : Type} {j es : Journal} {e : Event} {p : Path}

/-! ## Answers and checks -/

namespace Event

/-- The program at a path has told its version. -/
def Answers (p : Path) : Event → Prop
  | .ran r _ (.ok o) =>
    r.program = p ∧ r.arguments = [Text.Utf8.encode versionFlag.toList] ∧ o.status = some 0
  | _ => False

/-- A project is checked. -/
def IsCheck : Event → Prop
  | .ran r _ _ => r.arguments = [Text.Utf8.encode checkCommand.toList]
  | _ => False

/-- A project is checked with the program at a path. -/
def Checks (p : Path) : Event → Prop
  | .ran r _ _ => r.program = p ∧ r.arguments = [Text.Utf8.encode checkCommand.toList]
  | _ => False

/-- A project should have been checked and the program could not be started. -/
def FailsCheck : Event → Prop
  | .ran r _ o => r.arguments = [Text.Utf8.encode checkCommand.toList] ∧ o.isStartFailure = true
  | _ => False

theorem Checks.isCheck (h : e.Checks p) : e.IsCheck := by
  cases e with
  | ran => exact h.2
  | _ => exact h

theorem FailsCheck.isCheck (h : e.FailsCheck) : e.IsCheck := by
  cases e with
  | ran => exact h.1
  | _ => exact h

end Event

namespace Journal

/-- The program at a path has told its version since a check last failed to start. -/
def Fresh (j : Journal) (p : Path) : Prop :=
  ∃ a e b, j = a ++ e :: b ∧ e.Answers p ∧ ∀ x ∈ b, ¬x.FailsCheck

/-- Before each check its program has told its version, and no check has failed to start since. -/
def Probed (j : Journal) : Prop :=
  ∀ a e b p, j = a ++ e :: b → e.Checks p → Fresh a p

/-- Nothing is checked. -/
def Quiet (j : Journal) : Prop := ∀ e ∈ j, ¬e.IsCheck

theorem Fresh.append (h : Fresh j p) (hes : ∀ e ∈ es, ¬e.FailsCheck) : Fresh (j ++ es) p := by
  obtain ⟨a, e, b, rfl, he, hb⟩ := h
  refine ⟨a, e, b ++ es, by simp, he, fun x hx => ?_⟩
  rcases List.mem_append.mp hx with hx | hx
  · exact hb x hx
  · exact hes x hx

theorem quiet_nil : Quiet [] := by simp [Quiet]

theorem Quiet.append (h : Quiet j) (hes : Quiet es) : Quiet (j ++ es) := by
  intro e he
  rcases List.mem_append.mp he with he | he
  · exact h e he
  · exact hes e he

theorem probed_nil : Probed [] := by
  intro a e b p h
  simp at h

theorem Probed.concat (h : Probed j) (he : ∀ p, e.Checks p → Fresh j p) : Probed (j ++ [e]) := by
  intro a x b p hx hc
  rcases List.eq_nil_or_concat b with rfl | ⟨b, y, rfl⟩
  · obtain ⟨rfl, hxe⟩ := List.append_inj' hx rfl
    obtain rfl : e = x := by simpa using hxe
    exact he p hc
  · rw [List.concat_eq_append, ← List.cons_append, ← List.append_assoc] at hx
    obtain ⟨rfl, -⟩ := List.append_inj' hx rfl
    exact h a x b p rfl hc

theorem Probed.append (h : Probed j) (hes : Quiet es) : Probed (j ++ es) := by
  induction es using List.reverseRecOn with
  | nil => simpa using h
  | append_singleton es e ih =>
    rw [← List.append_assoc]
    refine (ih fun x hx => hes x (by simp [hx])).concat fun p hc => ?_
    exact absurd hc.isCheck (hes e (by simp))

end Journal

open Journal

/-! ## What a chain writes down -/

namespace Compiler

variable {s : Searcher σ} {scene scene₁ scene' : Scene σ} {r : Option Path}

/-- Events along links: nothing is checked, and a program that is found has just answered. -/
structure Tells (r : Option Path) (es : Journal) : Prop where
  quiet : Quiet es
  answered : ∀ p, r = some p → ∃ front e, es = front ++ [e] ∧ e.Answers p

theorem Tells.none (hes : Quiet es) : Tells none es := ⟨hes, by simp⟩

theorem Tells.after (h : Tells r es) (hj : Quiet j) : Tells r (j ++ es) where
  quiet := hj.append h.quiet
  answered p hp := by
    obtain ⟨front, e, rfl, he⟩ := h.answered p hp
    exact ⟨j ++ front, e, by simp, he⟩

theorem quiet_versionRequest (plan : Plan) (program : Path) (o : Run.Outcome) :
    Quiet [.ran (plan.versionRequest program) .fresh o] := by
  intro e he hc
  obtain rfl := List.mem_singleton.mp he
  have : [Text.Utf8.encode versionFlag.toList] ≠ [Text.Utf8.encode checkCommand.toList] := by decide
  exact this hc

theorem quiet_unpackRequest (plan : Plan) (archive : Path) (o : Run.Outcome) :
    Quiet [.ran (plan.unpackRequest archive) .fresh o] := by
  intro e he hc
  obtain rfl := List.mem_singleton.mp he
  have := congrArg List.length hc
  simp [Plan.unpackRequest] at this

theorem Asking.tells {candidate : Candidate} (h : Asking s candidate scene r es scene') :
    Tells r es := by
  cases h with
  | nobody => exact .none quiet_nil
  | refused => exact .none (quiet_versionRequest _ _ _)
  | accepted _ _ ho =>
    obtain ⟨o, rfl, hstatus⟩ := ho
    refine ⟨quiet_versionRequest _ _ _, ?_⟩
    rintro p ⟨⟩
    exact ⟨[], _, rfl, rfl, rfl, hstatus⟩

theorem Fetching.quiet (h : Fetching s scene r es scene') : Quiet es := by
  cases h with
  | unpublished | noDirectory => exact quiet_nil
  | failed | stored => simp [Quiet, Event.IsCheck]

theorem Unpacking.quiet {archive : Path} {whole : Bool}
    (h : Unpacking s archive scene whole es scene') :
    Quiet es := by
  cases h <;> exact quiet_unpackRequest _ _ _

theorem Downloading.tells (h : Downloading s scene r es scene') : Tells r es := by
  cases h with
  | notFetched hf => exact .none hf.quiet
  | notUnpacked hf hu => exact .none (hf.quiet.append hu.quiet)
  | unpacked hf hu ha => exact ha.tells.after (hf.quiet.append hu.quiet)

theorem Along.tells {links : List (Link σ)}
    (hlinks : ∀ link ∈ links, ∀ scene r es scene', link scene r es scene' → Tells r es)
    (h : Along links scene r es scene') : Tells r es := by
  induction h with
  | nothing => exact .none quiet_nil
  | found h => exact hlinks _ (by simp) _ _ _ _ h
  | next h _ ih =>
    have hfirst := hlinks _ (by simp) _ _ _ _ h
    exact (ih fun link hl => hlinks link (by simp [hl])).after hfirst.quiet

theorem tells_chain (h : Along s.chain scene r es scene') : Tells r es := by
  refine h.tells fun link hl scene r es scene' hlink => ?_
  unfold Searcher.chain at hl
  have hcases : (∃ candidate, link = Asking s candidate) ∨ link = Downloading s := by
    grind
  obtain ⟨candidate, rfl⟩ | rfl := hcases
  · exact Asking.tells hlink
  · exact Downloading.tells hlink

theorem Tells.fresh (h : Tells (some p) es) : Fresh (j ++ es) p := by
  obtain ⟨front, e, rfl, he⟩ := h.answered p rfl
  exact ⟨j ++ front, e, [], by simp, he, by simp⟩

/-! ## What a search writes down -/

/-- What a search from the beginning found answered last. -/
theorem Searcher.Resolves.tells {result : Except Unavailable Binary}
    (h : s.Resolves scene result es scene') :
    (∀ b, result = .ok b → b.verified = true) ∧ Tells (result.toOption.map Binary.path) es := by
  cases result with
  | ok b => exact ⟨by rintro b ⟨⟩; exact h.1, tells_chain h.2⟩
  | error e => exact ⟨by simp, tells_chain h.2⟩

/-- A search found what answered last, or what was remembered as verified without asking anybody. -/
theorem Ensuring.tells {memory : Memory} {result : Except Unavailable Binary}
    (h : Ensuring s memory scene result es scene') :
    (∀ b, result = .ok b → b.verified = true) ∧
      (Tells (result.toOption.map Binary.path) es ∨
        ∃ p, memory = some ⟨p, true⟩ ∧ result = .ok ⟨p, true⟩ ∧ es = []) := by
  cases h with
  | remembered => exact ⟨by simp, Or.inr ⟨_, rfl, rfl, rfl⟩⟩
  | renewed hr ho =>
    have hasking : Asking s (.always _) scene (some _) _ _ := .accepted rfl hr ho
    exact ⟨by simp, Or.inl hasking.tells⟩
  | replaced _ _ _ h => exact ⟨h.tells.1, Or.inl (h.tells.2.after (quiet_versionRequest _ _ _))⟩
  | resolved h => exact ⟨h.tells.1, Or.inl h.tells.2⟩

namespace Searcher

/-- What is remembered after a search is what it found. It answered during the search, or had been
remembered as verified. -/
structure Remembers (memory : Memory) (r : Except Unavailable Binary) (memory' : Memory)
    (es : Journal) : Prop where
  quiet : Quiet es
  found : memory' = r.toOption
  answered : ∀ b, r = .ok b → b.verified = true ∧ (memory = some b ∨ ∀ j, Fresh (j ++ es) b.path)

theorem noted_ensure (s : Searcher σ) (memory : Memory) (scene : Scene σ) (j : Journal) :
    ∃ es, s.noted.ensure memory (scene.noting j) =
        ((s.ensure memory scene).1, (s.ensure memory scene).2.1,
          (s.ensure memory scene).2.2.noting (j ++ es)) ∧
      Remembers memory (s.ensure memory scene).1 (s.ensure memory scene).2.1 es := by
  obtain ⟨result, es, scene', ⟨hplain, hnoted⟩, h⟩ := attempts_ensure s memory scene
  rw [hplain]
  refine ⟨es, hnoted j, ?_⟩
  obtain ⟨hv, ht | ⟨p, hm, rfl, rfl⟩⟩ := h.tells
  · refine ⟨ht.quiet, rfl, fun b hb => ⟨hv b hb, Or.inr fun j => ?_⟩⟩
    subst hb
    exact Tells.fresh ht
  · refine ⟨quiet_nil, rfl, ?_⟩
    rintro b ⟨⟩
    exact ⟨rfl, Or.inl hm⟩

end Searcher

end Compiler

/-! ## Validations one after the other -/

namespace Validation

/-- Checks follow answers, and what is remembered as verified has told its version since a check
last failed to start. -/
structure Keeps (memory : Memory) (j : Journal) : Prop where
  probed : Probed j
  remembered : ∀ b, memory = some b → b.verified = true → Fresh j b.path

variable (s : Searcher σ) (root : Path) (limits : Limits)

/-- The validator that searches for its compiler with the executor that it runs it with. -/
abbrev Validator.searching : Validator σ := ⟨Validation.searching s, s.executor, root, limits⟩

/-- The same validator with a journal. -/
abbrev Validator.searchingNoted : Validator (Journal × σ) :=
  ⟨Validation.searching s.noted, s.executor.noted, root, limits⟩

theorem keeps_ensure {memory : Memory} (hk : Keeps memory j) (scene : Scene σ) :
    ∃ es, s.noted.ensure memory (scene.noting j) =
        ((s.ensure memory scene).1, (s.ensure memory scene).2.1,
          (s.ensure memory scene).2.2.noting (j ++ es)) ∧
      Keeps (s.ensure memory scene).2.1 (j ++ es) ∧
      ∀ b, (s.ensure memory scene).1 = .ok b →
        (s.ensure memory scene).2.1 = some b ∧ Fresh (j ++ es) b.path := by
  obtain ⟨es, he, hr⟩ := s.noted_ensure memory scene j
  have hfresh : ∀ b, (s.ensure memory scene).1 = .ok b → Fresh (j ++ es) b.path := by
    intro b hb
    obtain ⟨hv, hm | hf⟩ := hr.answered b hb
    · exact (hk.remembered b hm hv).append fun e hx hc => hr.quiet e hx hc.isCheck
    · exact hf j
  refine ⟨es, he, ⟨hk.probed.append hr.quiet, fun b hb _ => hfresh b ?_⟩,
    fun b hb => ⟨?_, hfresh b hb⟩⟩
  rotate_left
  · rw [hr.found, hb, Except.toOption]
  rw [hr.found] at hb
  cases hres : (s.ensure memory scene).1 with
  | error e => rw [hres] at hb; cases hb
  | ok b' => rw [hres] at hb; exact congrArg Except.ok (Option.some.inj hb)

/-- A check of a program that has just answered. When it fails to start the program is doubted. -/
theorem keeps_check {b : Binary} {w : World σ} (hw : w.memory = some b) (hk : Keeps w.memory j)
    (hf : Fresh j b.path) (project : Workspace.Project) (t : Token) :
    ∃ es, ((Validator.searchingNoted s root limits).check b project t (w.noting j)).2 =
        ((Validator.searching s root limits).check b project t w).2.noting (j ++ es) ∧
      Keeps ((Validator.searching s root limits).check b project t w).2.memory (j ++ es) := by
  rcases hr : s.executor ((Validator.searching s root limits).request b project) t w.scene with
    ⟨outcome, scene⟩
  have he : s.executor.noted ((Validator.searchingNoted s root limits).request b project) t
      (w.scene.noting j) = _ := Run.Executor.noted_apply hr j
  have hprobed :
      Probed (j ++ [.ran ((Validator.searching s root limits).request b project) t outcome]) := by
    refine hk.probed.concat fun p hc => ?_
    rw [← hc.1]
    exact hf
  refine ⟨[.ran ((Validator.searching s root limits).request b project) t outcome], ?_, ?_⟩
  · simp only [Validator.check, World.scene_noting, hr, he]
    cases outcome.isStartFailure <;> rfl
  · simp only [Validator.check, hr]
    cases ho : outcome.isStartFailure with
    | true =>
      refine ⟨hprobed, ?_⟩
      simp [hw, Memory.invalidate, Validation.searching, Binary.doubted]
    | false =>
      refine ⟨hprobed, ?_⟩
      simp only [Bool.false_eq_true, ↓reduceIte, hw]
      rintro b ⟨⟩ -
      refine hf.append fun e hx hc => ?_
      obtain rfl := List.mem_singleton.mp hx
      exact absurd hc.2 (by simp [ho])

theorem keeps_validate {w : World σ} (hk : Keeps w.memory j) (contract : Contract) (t : Token) :
    ∃ es, ((Validator.searchingNoted s root limits).validate contract t (w.noting j)).2 =
        ((Validator.searching s root limits).validate contract t w).2.noting (j ++ es) ∧
      Keeps ((Validator.searching s root limits).validate contract t w).2.memory (j ++ es) := by
  unfold Validator.validate
  rw [World.scene_noting, Scene.isCancelled_noting]
  split
  · exact ⟨[], by simp, by simpa using hk⟩
  rcases hr : s.ensure w.memory w.scene with ⟨r, memory, scene⟩
  obtain ⟨es, he, hk', hf⟩ := keeps_ensure s hk w.scene
  rw [hr] at he hk' hf
  simp only [Validation.searching, World.memory_noting, World.scene_noting, hr, he]
  cases r with
  | error e => exact ⟨es, rfl, hk'⟩
  | ok b =>
    obtain ⟨hmem, hfresh⟩ := hf b rfl
    simp only [World.ticket_noting, Scene.files_noting]
    rcases Workspace.stage root contract w.ticket scene.files with ⟨e | project, ticket, files⟩
    · exact ⟨es, rfl, hk'⟩
    · obtain ⟨es', he', hk''⟩ :=
        keeps_check s root limits (w := ⟨{ scene with files }, memory, ticket⟩)
        hmem hk' hfresh project t
      refine ⟨es ++ es', ?_, ?_⟩
      · rw [← List.append_assoc]
        exact he'
      · rw [← List.append_assoc]
        exact hk''

theorem keeps_run {w : World σ} (hk : Keeps w.memory j) (hs : List (Happening σ)) :
    ∃ es, Happening.run (.searchingNoted s root limits) (w.noting j) (hs.map Happening.noted) =
        (Happening.run (.searching s root limits) w hs).noting (j ++ es) ∧
      Keeps (Happening.run (.searching s root limits) w hs).memory (j ++ es) := by
  induction hs using List.reverseRecOn with
  | nil => exact ⟨[], by simp [Happening.run], by rw [List.append_nil]; exact hk⟩
  | append_singleton hs h ih =>
    obtain ⟨es, he, hk'⟩ := ih
    rw [List.map_append, List.map_singleton, Happening.run_concat, Happening.run_concat, he]
    cases h with
    | validate contract t =>
      obtain ⟨es', he', hk''⟩ := keeps_validate s root limits hk' contract t
      rw [List.append_assoc] at he' hk''
      exact ⟨es ++ es', he', hk''⟩
    | meanwhile change => exact ⟨es, rfl, hk'⟩

/-- However validations and other changes follow each other, from a start with nothing remembered
every check follows an answer of its program, and no check has failed to start in between. -/
theorem probed_before_check (scene : Scene σ) (ticket : Nat) (hs : List (Happening σ)) :
    ∃ j, Happening.run ⟨Validation.searching s.noted, s.executor.noted, root, limits⟩
          ⟨scene.noting [], none, ticket⟩ (hs.map Happening.noted) =
        (Happening.run ⟨Validation.searching s, s.executor, root, limits⟩
          ⟨scene, none, ticket⟩ hs).noting j ∧
      Probed j := by
  have hk : Keeps (none : Memory) [] := ⟨probed_nil, by simp⟩
  obtain ⟨j, he, hk'⟩ := keeps_run s root limits (w := ⟨scene, none, ticket⟩) hk hs
  exact ⟨j, he, hk'.probed⟩

end Validation

end ClarityCheck
