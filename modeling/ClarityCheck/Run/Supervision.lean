import ClarityCheck.Run.Outcome
import ClarityCheck.Text.Utf8

/-!
# Watching over a run

A run is looked at in intervals until it has ended, then both captured streams are awaited. A run
that is cancelled or takes too long is killed and reaped; one that has ended has been reaped by the
look that saw it.

What the clock, the process and the streams do is given as a sequence of looks, so that everything
here is a function of what was seen.

Main statements: `awaitExit_ends` and `awaitCapture_ends` (both loops end within a number of looks
that the time limit bounds, as long as the clock advances by an interval between two looks).
-/

namespace ClarityCheck.Run

/-- The pause between two looks. -/
def pollInterval : Duration := .ofMilliseconds 50

/-- The number of looks within which every wait under a time limit ends. -/
def lookBound (limit : Duration) : Nat := limit.nanoseconds / pollInterval.nanoseconds + 2

/-- What is done about a process. -/
inductive Action where
  | pause
  | kill
  | reap
  deriving DecidableEq, Repr

/-- What a look at a process shows. -/
structure Look where
  /-- How the process ended, if it has. -/
  exit : Except SystemError (Option (Option Int))
  cancelled : Bool
  elapsed : Duration

/-- What a process is made to end with. -/
def stopProcess : List Action := [.kill, .reap]

/-- Looks at a process until it has ended, at most `fuel` times, from look number `k` on. -/
def awaitExit (limit : Duration) (looks : Nat → Look) :
    (fuel k : Nat) → Option (Except Failure.Cause (Option Int) × List Action)
  | 0, _ => none
  | fuel + 1, k =>
    match (looks k).exit with
    | .error e => some (.error (.unwatched e), stopProcess)
    | .ok (some status) => some (.ok status, [])
    | .ok none =>
      if (looks k).cancelled then some (.error .cancelled, stopProcess)
      else if limit.nanoseconds < (looks k).elapsed.nanoseconds then
        some (.error (.timedOut limit), stopProcess)
      else (awaitExit limit looks fuel (k + 1)).map fun r => (r.1, .pause :: r.2)

/-- What is kept of a stream. -/
structure Captured where
  bytes : Bytes
  /-- Some bytes were dropped. -/
  truncated : Bool
  deriving DecidableEq, Repr

/-- What is kept of a stream, as text. -/
def Captured.text (c : Captured) : String := String.ofList (Text.Utf8.decodeLossy c.bytes)

/-- What waiting for a captured stream shows. -/
structure Arrival where
  /-- The time to the deadline when the wait begins. A wait lasts an interval, or less if the
  deadline comes before. -/
  remaining : Duration
  /-- What arrives during the wait. -/
  captured : Option (Except SystemError Captured)
  cancelled : Bool

/-- Waits for a captured stream, at most `fuel` times, from wait number `k` on. -/
def awaitCapture (limit : Duration) (arrivals : Nat → Arrival) :
    (fuel k : Nat) → Option (Except Failure.Cause Captured)
  | 0, _ => none
  | fuel + 1, k =>
    match (arrivals k).captured with
    | some (.ok c) => some (.ok c)
    | some (.error e) => some (.error (.unwatched e))
    | none =>
      if (arrivals k).cancelled then some (.error .cancelled)
      else if (arrivals k).remaining.nanoseconds = 0 then some (.error (.timedOut limit))
      else awaitCapture limit arrivals fuel (k + 1)

/-- Everything that is seen of a run. -/
structure Observed where
  looks : Nat → Look
  stdout : Nat → Arrival
  stderr : Nat → Arrival

/-- How a run that was started ends, and what is done about its process; nothing when a loop goes on
beyond the bound. -/
def supervise (limit : Duration) (o : Observed) :
    Option (Except Failure.Cause Output × List Action) :=
  match awaitExit limit o.looks (lookBound limit) 0 with
  | none => none
  | some (.error c, actions) => some (.error c, actions)
  | some (.ok status, actions) =>
    match awaitCapture limit o.stdout (lookBound limit) 0 with
    | none => none
    | some (.error c) => some (.error c, actions)
    | some (.ok out) =>
      match awaitCapture limit o.stderr (lookBound limit) 0 with
      | none => none
      | some (.error c) => some (.error c, actions)
      | some (.ok err) =>
        some (.ok ⟨status, out.text, err.text, out.truncated || err.truncated⟩, actions)

/-! ## The loops end -/

theorem awaitExit_isSome_of_late {limit : Duration} {looks : Nat → Look} {fuel k last : Nat}
    (hk : k ≤ last) (hf : last < k + fuel)
    (late : limit.nanoseconds < (looks last).elapsed.nanoseconds) :
    (awaitExit limit looks fuel k).isSome := by
  induction fuel generalizing k with
  | zero => omega
  | succ fuel ih =>
    rw [awaitExit]
    split
    · rfl
    · rfl
    · split
      · rfl
      · split
        · rfl
        · next h =>
          have hne : k ≠ last := by
            rintro rfl
            exact h late
          rw [Option.isSome_map]
          exact ih (by omega) (by omega)

/-- Waiting for the end of a process ends. -/
theorem awaitExit_ends {limit : Duration} {looks : Nat → Look}
    (advance : ∀ k, k * pollInterval.nanoseconds ≤ (looks k).elapsed.nanoseconds) :
    (awaitExit limit looks (lookBound limit) 0).isSome := by
  refine awaitExit_isSome_of_late (Nat.zero_le (limit.nanoseconds / pollInterval.nanoseconds + 1))
    (by unfold lookBound; omega) ?_
  refine Nat.lt_of_lt_of_le ?_ (advance _)
  have : 0 < pollInterval.nanoseconds := by decide
  rw [Nat.mul_comm]
  exact Nat.lt_mul_div_succ _ this

theorem awaitCapture_isSome_of_due {limit : Duration} {arrivals : Nat → Arrival}
    {fuel k last : Nat} (hk : k ≤ last) (hf : last < k + fuel)
    (due : (arrivals last).remaining.nanoseconds = 0) :
    (awaitCapture limit arrivals fuel k).isSome := by
  induction fuel generalizing k with
  | zero => omega
  | succ fuel ih =>
    rw [awaitCapture]
    split
    · rfl
    · rfl
    · split
      · rfl
      · split
        · rfl
        · next h =>
          have hne : k ≠ last := by
            rintro rfl
            exact h due
          exact ih (by omega) (by omega)

/-- Waiting for a captured stream ends. -/
theorem awaitCapture_ends {limit : Duration} {arrivals : Nat → Arrival}
    (start : (arrivals 0).remaining.nanoseconds ≤ limit.nanoseconds)
    (advance : ∀ k, (arrivals (k + 1)).remaining.nanoseconds
      ≤ (arrivals k).remaining.nanoseconds - pollInterval.nanoseconds) :
    (awaitCapture limit arrivals (lookBound limit) 0).isSome := by
  have hle : ∀ k, (arrivals k).remaining.nanoseconds
      ≤ limit.nanoseconds - k * pollInterval.nanoseconds := by
    intro k
    induction k with
    | zero => simpa using start
    | succ k ih =>
      have := advance k
      rw [Nat.succ_mul]
      omega
  refine awaitCapture_isSome_of_due (Nat.zero_le (limit.nanoseconds / pollInterval.nanoseconds + 1))
    (by unfold lookBound; omega) ?_
  have h := hle (limit.nanoseconds / pollInterval.nanoseconds + 1)
  have hp : 0 < pollInterval.nanoseconds := by decide
  have := Nat.lt_mul_div_succ limit.nanoseconds hp
  rw [Nat.mul_comm] at this
  omega

end ClarityCheck.Run
