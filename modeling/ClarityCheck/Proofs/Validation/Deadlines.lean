import ClarityCheck.Host.Machine
import ClarityCheck.Proofs.Validation.SearchCrash

/-!
# Deadlines that cannot be written down

A run crashes exactly when its deadline lies beyond what the clock can show, and settings that make
sense may still have time limits that lead there.

* `supervise_handled`: a run that has begun does not crash
* `execute_crashes_iff`: which runs crash
* `crashes_iff_overrun`: which time limits of settings make runs and validations crash
* `unreachable_deadline`: a run under settings that make sense and a validation with them, both of
  which crash
-/

namespace ClarityCheck

/-! ## Runs that have begun -/

namespace Run

variable {limit : Duration} {c : Failure.Cause}

theorem awaitExit_handled {looks : Nat → Look} {fuel k : Nat} {actions : List Action}
    (h : awaitExit limit looks fuel k = some (.error c, actions)) : c ≠ .noDeadline := by
  induction fuel generalizing k actions with
  | zero => simp [awaitExit] at h
  | succ fuel ih =>
    rw [awaitExit] at h
    split at h
    · cases h
      simp
    · cases h
    · split at h
      · cases h
        simp
      · split at h
        · cases h
          simp
        · obtain ⟨⟨result, actions'⟩, hrest, hr⟩ := Option.map_eq_some_iff.mp h
          cases hr
          exact ih hrest

theorem awaitCapture_handled {arrivals : Nat → Arrival} {fuel k : Nat}
    (h : awaitCapture limit arrivals fuel k = some (.error c)) : c ≠ .noDeadline := by
  induction fuel generalizing k with
  | zero => simp [awaitCapture] at h
  | succ fuel ih =>
    rw [awaitCapture] at h
    split at h
    · cases h
    · cases h
      simp
    · split at h
      · cases h
        simp
      · split at h
        · cases h
          simp
        · exact ih h

/-- A run that has begun does not crash. -/
theorem supervise_handled {o : Observed} {actions : List Action}
    (h : supervise limit o = some (.error c, actions)) : c ≠ .noDeadline := by
  unfold supervise at h
  split at h
  · cases h
  · next hexit =>
    cases h
    exact awaitExit_handled hexit
  · split at h
    · cases h
    · next hout =>
      cases h
      exact awaitCapture_handled hout
    · split at h
      · cases h
      · next herr =>
        cases h
        exact awaitCapture_handled herr
      · cases h

theorem crash?_eq_none {program : String} (h : c ≠ .noDeadline) :
    Outcome.crash? (.error ⟨program, c⟩) = none := by
  simp [Outcome.crash?, Failure.isCrash, h]

/-- Whole seconds are added to the seconds of the clock. -/
theorem Instant.secondsAfter_ofSeconds (now : Instant) (n : Nat) :
    now.secondsAfter (.ofSeconds n) = now.seconds + n := by
  have hn : now.nanoseconds < 1000000000 := now.nanoseconds_lt
  have hseconds : (now.nanoseconds + n * 1000000000) / 1000000000 = n := by omega
  exact congrArg (fun k : Nat => now.seconds + k) hseconds

end Run

namespace Host

variable {now : Run.Instant} {e : Environment} {cancelTime : Option Nat} {files seen : Files}
  {r : Run.Request}

theorem watch_handled (image : Image) :
    (watch e cancelTime files seen r image).1.crash? = none := by
  unfold watch
  simp only
  split
  · rfl
  · next hc => exact Run.crash?_eq_none (Run.supervise_handled hc)
  · rfl

theorem start_handled : (start e cancelTime files r).1.crash? = none := by
  unfold start
  split
  · rfl
  · exact watch_handled _

/-- A run crashes exactly when its deadline lies beyond the seconds that the clock can show. -/
theorem execute_crashes_iff : (execute now e cancelTime files r).1.crash? ≠ none ↔
    0x8000_0000_0000_0000 ≤ now.secondsAfter r.timeout := by
  rw [← now.after?_eq_none_iff]
  cases h : now.after? r.timeout with
  | none => simp [execute_of_noDeadline h, Run.Outcome.crash?, Run.Failure.isCrash]
  | some t => simp [execute, h, start_handled]

end Host

/-! ## Time limits of settings -/

namespace Settings

/-- The settings that limit how long a run may take. -/
inductive TimeLimit where
  | check
  | probe
  | download
  deriving DecidableEq, Repr

namespace TimeLimit

/-- The seconds of a time limit. -/
def seconds (s : Settings) : TimeLimit → UInt64
  | check => s.checkSeconds
  | probe => s.probeSeconds
  | download => s.downloadSeconds

/-- A time limit as a span of time. -/
def duration (s : Settings) : TimeLimit → Duration
  | check => s.checkTimeout
  | probe => s.probeTimeout
  | download => s.downloadTimeout

/-- The clock shows a time from which the time limit leads beyond what it can show. -/
def Overruns (s : Settings) (now : Run.Instant) (limit : TimeLimit) : Prop :=
  0x8000_0000_0000_0000 ≤ now.seconds + (limit.seconds s).toNat

instance (s : Settings) (now : Run.Instant) (limit : TimeLimit) :
    Decidable (limit.Overruns s now) :=
  inferInstanceAs (Decidable (_ ≤ _))

theorem overruns_iff (s : Settings) (now : Run.Instant) (limit : TimeLimit) :
    0x8000_0000_0000_0000 ≤ now.secondsAfter (limit.duration s) ↔ limit.Overruns s now := by
  cases limit <;> exact iff_of_eq (congrArg _ (now.secondsAfter_ofSeconds _))

end TimeLimit

end Settings

open Settings (TimeLimit)

variable {σ : Type}

/-- The executor of the host with a clock in its state, which is read before each run and moves on.
-/
def Host.ticking (clock : σ → Run.Instant) (tick : σ → σ) (e : Environment) : Run.Executor σ :=
  fun r t scene =>
    let (outcome, scene') := executor (clock scene.state) e r t scene
    (outcome, { scene' with state := tick scene'.state })

/-- A clock that stands still shows the time of a single reading. -/
theorem Host.ticking_still (now : Run.Instant) (e : Environment) :
    ticking (fun _ => now) id e = executor (σ := σ) now e := rfl

namespace Validation

variable {s : Settings} {e : Environment} {clock : σ → Run.Instant} (tick : σ → σ)

theorem ticking_handled {limit : TimeLimit} (h : ∀ state, ¬limit.Overruns s (clock state))
    (r : Run.Request) (t : Token) (scene : Scene σ) (hr : r.timeout = limit.duration s) :
    (Host.ticking clock tick e r t scene).1.crash? = none := by
  by_contra hcrash
  have hlate := Host.execute_crashes_iff.mp hcrash
  rw [hr] at hlate
  exact h scene.state ((limit.overruns_iff s _).mp hlate)

theorem steady_ticking (h : ∀ limit state, ¬TimeLimit.Overruns s (clock state) limit)
    (fetcher : Download.Fetcher σ) : Steady s e (Host.ticking clock tick e) fetcher where
  search :=
    { probe := fun _ => .of_handled fun scene => ticking_handled tick (h .probe) _ _ scene rfl
      unpack := fun _ => .of_handled fun scene => ticking_handled tick (h .download) _ _ scene rfl }
  check _ _ := .of_handled fun scene => ticking_handled tick (h .check) _ _ scene rfl

theorem ticking_of_noDeadline {r : Run.Request} {scene : Scene σ}
    (h : (clock scene.state).after? r.timeout = none) (t : Token) :
    Host.ticking clock tick e r t scene =
      (.error ⟨r.program.display, .noDeadline⟩, { scene with state := tick scene.state }) := by
  simp only [Host.ticking, Host.executor, Host.execute_of_noDeadline h]

theorem stuck_ticking {scene : Scene σ} (h : TimeLimit.probe.Overruns s (clock scene.state))
    (fetcher : Download.Fetcher σ) :
    (searcher s e (Host.ticking clock tick e) fetcher).Stuck scene := by
  have hlate : (clock scene.state).after? s.probeTimeout = none :=
    ((clock scene.state).after?_eq_none_iff _).mpr ((TimeLimit.probe.overruns_iff s _).mpr h)
  intro program
  have hrun := ticking_of_noDeadline tick (e := e)
    (r := (searcher s e (Host.ticking clock tick e) fetcher).probe program) hlate .fresh
  exact ⟨congrArg Prod.fst hrun, congrArg (·.2.files) hrun⟩

/-- A run under a time limit of settings crashes exactly when the limit overruns. A validation
answers what is known of validations unless some limit overruns, and it crashes without changing a
file when the first program that it asks has no deadline. -/
theorem crashes_iff_overrun (s : Settings) (e : Environment) :
    (∀ (limit : TimeLimit) (now : Run.Instant) (cancelTime : Option Nat) (files : Files)
        (r : Run.Request),
      (Host.execute now e cancelTime files { r with timeout := limit.duration s }).1.crash? ≠ none ↔
        limit.Overruns s now) ∧
    ∀ (clock : σ → Run.Instant) (tick : σ → σ) (fetcher : Download.Fetcher σ) (ticket : Nat)
        (contract : Contract) (scene : Scene σ),
      ((∃ limit state, TimeLimit.Overruns s (clock state) limit) ∨
        validateOnce s e (Host.ticking clock tick e) fetcher ticket contract scene =
          let v := validator s e (Host.ticking clock tick e) fetcher
          (.ok (v.validate contract .fresh ⟨scene, none, ticket⟩).1.toResponse,
            (v.validate contract .fresh ⟨scene, none, ticket⟩).2.scene)) ∧
      (¬TimeLimit.probe.Overruns s (clock scene.state) ∨
        ∃ (program : Path) (scene' : Scene σ),
          validateOnce s e (Host.ticking clock tick e) fetcher ticket contract scene =
            (.error ⟨program.display, .noDeadline⟩, scene') ∧ scene'.files = scene.files) := by
  refine ⟨fun limit now cancelTime files r => ?_,
    fun clock tick fetcher ticket contract scene => ⟨?_, ?_⟩⟩
  · rw [Host.execute_crashes_iff]
    exact limit.overruns_iff s now
  · by_cases h : ∃ limit state, TimeLimit.Overruns s (clock state) limit
    · exact .inl h
    · have hsteady :=
        steady_ticking tick (e := e) (fun limit state hl => h ⟨limit, state, hl⟩) fetcher
      exact .inr (validateOnce_of_steady hsteady ticket contract scene)
  · by_cases h : TimeLimit.probe.Overruns s (clock scene.state)
    · exact .inr (validateOnce_of_stuck (stuck_ticking tick h fetcher) ticket contract)
    · exact .inl h

/-- Settings that make sense with the longest time limit for asking a program its version. -/
def patient : Settings := { probeSeconds := 0xFFFF_FFFF_FFFF_FFFF }

/-- Under settings that make sense, a run crashes on a host that has just come up, and so does every
validation. -/
theorem unreachable_deadline :
    patient.problem? = none ∧
    (Host.execute Host.beginning ⟨[], none⟩ none ⟨[], []⟩
      { Run.Request.of (.ofString "clarinet") with timeout := patient.probeTimeout }).1.crash? ≠
        none ∧
    ∀ (fetcher : Download.Fetcher Unit) (ticket : Nat) (contract : Contract) (scene : Scene Unit),
      ∃ (program : Path) (scene' : Scene Unit),
        validateOnce patient ⟨[], none⟩ (Host.executor Host.beginning ⟨[], none⟩) fetcher ticket
          contract scene =
          (.error ⟨program.display, .noDeadline⟩, scene') ∧ scene'.files = scene.files := by
  have hlate : TimeLimit.probe.Overruns patient Host.beginning := by decide
  refine ⟨by decide +kernel, ?_, fun fetcher ticket contract scene => ?_⟩
  · rw [Host.execute_crashes_iff]
    exact (TimeLimit.probe.overruns_iff patient _).mpr hlate
  · rw [← Host.ticking_still]
    exact validateOnce_of_stuck (stuck_ticking id hlate fetcher) ticket contract

end Validation

end ClarityCheck
