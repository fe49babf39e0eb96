import ClarityCheck.Proofs.Compiler.FoundPath
import ClarityCheck.Proofs.Compiler.ProbedFirst

/-!
# What a provider remembers

A provider remembers at most one compiler, and whether it may be used without asking it again.
Whatever is done with the provider, a compiler that is remembered as verified was so at the start,
has been stored, or has told its version, and has not been doubted since.

* `Ensured`: what an attempt to come to a compiler does, whatever is remembered
* `stems_run`: where a verified compiler comes from
* `remembered_after_run`: both after every run of operations
-/

namespace ClarityCheck.Compiler

variable {σ : Type} {s : Searcher σ} {scene scene' : Scene σ} {es : Journal} {p : Path}
  {memory : Memory} {result : Except Unavailable Binary}

/-! ## One attempt -/

/-- What an attempt to come to a compiler does when `memory` is remembered. -/
structure Ensured (s : Searcher σ) (memory : Memory) (scene : Scene σ)
    (result : Except Unavailable Binary) (es : Journal) (scene' : Scene σ) : Prop where
  /-- What is found is verified. -/
  verified : ∀ b, result = .ok b → b.verified = true
  /-- Nobody is asked anything exactly when a verified compiler is remembered. -/
  silent_iff : es = [] ↔ ∃ p, memory = some ⟨p, true⟩
  /-- A verified compiler is given as it is. -/
  remembered : ∀ p, memory = some ⟨p, true⟩ → result = .ok ⟨p, true⟩ ∧ scene' = scene
  /-- A doubted compiler is asked first. If it does not answer the search begins as without one. -/
  doubted : ∀ p, memory = some ⟨p, false⟩ → ∃ o scene₁,
    s.executor (s.plan.versionRequest p) .fresh scene = (o, scene₁) ∧
      (o.IsZero ∧ es = [.ran (s.plan.versionRequest p) .fresh o] ∧ result = .ok ⟨p, true⟩ ∧
          scene' = scene₁ ∨
        ¬o.IsZero ∧ ∃ es', es = .ran (s.plan.versionRequest p) .fresh o :: es' ∧
          Attempts s none scene₁ result es' scene')

/-- Every search from the beginning asks somebody, if only for what the bare name stands for. -/
theorem Searcher.Resolves.ne_nil (h : s.Resolves scene result es scene') : es ≠ [] := by
  rintro rfl
  have ht := h.tells.2
  cases result with
  | ok b =>
    obtain ⟨front, e, he, -⟩ := ht.answered b.path rfl
    simp at he
  | error e =>
    have hmem : Asking s (.always (.ofString s.plan.family.executable)) ∈ s.chain := by
      unfold Searcher.chain
      simp
    obtain ⟨scene₀, scene₁, hasking⟩ := h.2.silent rfl rfl _ hmem
    cases hasking with
    | nobody hc => cases hc

theorem Ensuring.ensured (h : Ensuring s memory scene result es scene') :
    Ensured s memory scene result es scene' where
  verified := h.tells.1
  silent_iff := by
    cases h with
    | remembered => simp
    | renewed => simp
    | replaced => simp
    | resolved h => simpa using h.ne_nil
  remembered p hm := by
    cases h with
    | remembered => cases hm; exact ⟨rfl, rfl⟩
    | renewed | replaced | resolved => cases hm
  doubted p hm := by
    cases h with
    | remembered | resolved => cases hm
    | renewed hr ho =>
      cases hm
      exact ⟨_, _, hr, Or.inl ⟨ho, rfl, rfl, rfl⟩⟩
    | replaced hr ho ha =>
      cases hm
      exact ⟨_, _, hr, Or.inr ⟨ho, _, rfl, ha⟩⟩

/-! ## Where a verified compiler comes from -/

/-- After these operations a compiler has just come in as verified: it was so at the start, it has
been stored, or an attempt has ended with its answer. -/
inductive Enters (s : Searcher σ) (m : Memory × Scene σ) (p : Path) : List (Operation σ) → Prop
  | start (h : m.1 = some ⟨p, true⟩) : Enters s m p []
  | stored (ops : List (Operation σ)) : Enters s m p (ops ++ [.store ⟨p, true⟩])
  | answered {ops : List (Operation σ)} {result : Except Unavailable Binary} {front : Journal}
      {e : Event} {scene' : Scene σ}
      (h : Attempts s (Operation.run s m ops).1 (Operation.run s m ops).2 result
        (front ++ [e]) scene')
      (he : e.Answers p) : Enters s m p (ops ++ [.ensure])

/-- An operation that leaves a verified compiler as it is. -/
inductive Operation.IsHarmless : Operation σ → Prop
  | ensure : IsHarmless .ensure
  | meanwhile (change : Scene σ → Scene σ) : IsHarmless (.meanwhile change)

/-- A compiler came in as verified at some point, and since then it has not been doubted, forgotten
or exchanged for another. -/
def Stems (s : Searcher σ) (m : Memory × Scene σ) (ops : List (Operation σ)) (p : Path) : Prop :=
  ∃ before since, ops = before ++ since ∧ Enters s m p before ∧ ∀ op ∈ since, op.IsHarmless

theorem Enters.stems {m : Memory × Scene σ} {ops : List (Operation σ)} (h : Enters s m p ops) :
    Stems s m ops p :=
  ⟨ops, [], by simp, h, by simp⟩

theorem Stems.concat {m : Memory × Scene σ} {ops : List (Operation σ)} (h : Stems s m ops p)
    {op : Operation σ} (ho : op.IsHarmless) : Stems s m (ops ++ [op]) p := by
  obtain ⟨before, since, rfl, he, hs⟩ := h
  refine ⟨before, since ++ [op], by simp, he, fun op' hop => ?_⟩
  rcases List.mem_append.mp hop with hop | hop
  · exact hs op' hop
  · rwa [List.mem_singleton.mp hop]

theorem Operation.run_concat (m : Memory × Scene σ) (ops : List (Operation σ)) (op : Operation σ) :
    run s m (ops ++ [op]) = op.take s (run s m ops) := by
  simp [run]

/-- What is remembered as verified stems from the start, from storing or from an answer. -/
theorem stems_run (s : Searcher σ) (m : Memory × Scene σ) (ops : List (Operation σ)) (p : Path)
    (h : (Operation.run s m ops).1 = some ⟨p, true⟩) : Stems s m ops p := by
  induction ops using List.reverseRecOn generalizing p with
  | nil => exact (Enters.start h).stems
  | append_singleton ops op ih =>
    rw [Operation.run_concat] at h
    cases op with
    | ensure =>
      obtain ⟨result, es, scene', ha, he⟩ :=
        attempts_ensure s (Operation.run s m ops).1 (Operation.run s m ops).2
      obtain rfl : result = .ok ⟨p, true⟩ := by
        rw [Operation.take, ha.1] at h
        cases result with
        | error e => cases h
        | ok b => exact congrArg Except.ok (Option.some.inj h)
      obtain ⟨-, ht | ⟨q, hm, hq, -⟩⟩ := he.tells
      · obtain ⟨front, e, rfl, hanswers⟩ := ht.answered p rfl
        exact (Enters.answered ha hanswers).stems
      · cases hq
        exact (ih _ hm).concat .ensure
    | invalidate =>
      obtain ⟨b, -, hb⟩ := Option.map_eq_some_iff.mp h
      cases congrArg Binary.verified hb
    | clear => cases h
    | store b =>
      cases h
      exact (Enters.stored ops).stems
    | meanwhile change => exact (ih _ h).concat (.meanwhile change)

/-! ## Runs -/

/-- After every run of operations, from whatever was remembered at the start: what an attempt to
come to a compiler does, that doubting a compiler keeps its path, and where a verified compiler
comes from. -/
theorem remembered_after_run (s : Searcher σ) (m : Memory × Scene σ) (ops : List (Operation σ)) :
    (∃ result es scene',
      Attempts s (Operation.run s m ops).1 (Operation.run s m ops).2 result es scene' ∧
      Ensured s (Operation.run s m ops).1 (Operation.run s m ops).2 result es scene') ∧
    Operation.run s m (ops ++ [.invalidate]) =
      ((Operation.run s m ops).1.map fun b => ⟨b.path, false⟩, (Operation.run s m ops).2) ∧
    ∀ p, (Operation.run s m ops).1 = some ⟨p, true⟩ → Stems s m ops p := by
  refine ⟨?_, ?_, fun p hp => stems_run s m ops p hp⟩
  · obtain ⟨result, es, scene', ha, he⟩ :=
      attempts_ensure s (Operation.run s m ops).1 (Operation.run s m ops).2
    exact ⟨result, es, scene', ha, he.ensured⟩
  · rw [Operation.run_concat]
    rfl

end ClarityCheck.Compiler
