import ClarityCheck.Host.Machine
import Mathlib

/-!
# How supervised runs end

A run is looked at until a look settles how its process ends, and then each stream is waited for
until a wait settles what it has captured. What is there counts first: an end that is seen or a
stream that has arrived before the token, and the token before the clock. Whatever happens, the
process has been reaped when the run returns.

* `awaitExit_iff`, `awaitCapture_iff`: both loops end at the first observation that settles them
* `supervise_iff`: the ways in which a run ends
* `Ends.reaped`: no way leaves a process behind
* `supervise_ends`: runs under a clock that does not go back end
* `exists_supervised`: a program on the host is supervised along its own course
* `runs_accounted`: supervised runs and those of the host
-/

namespace ClarityCheck

namespace Run

/-! ## Single observations -/

/-- A look after which the process is looked at again. -/
structure Pending (limit : Duration) (l : Look) : Prop where
  running : l.exit = .ok none
  notCancelled : l.cancelled = false
  inTime : l.elapsed.nanoseconds ≤ limit.nanoseconds

/-- What a look settles. An end counts whatever the token and the clock show, and the token whatever
the clock shows. -/
inductive Settles (limit : Duration) (l : Look) : Except Failure.Cause (Option Int) → Prop
  | ended {status : Option Int} : l.exit = .ok (some status) → Settles limit l (.ok status)
  | unwatched {e : SystemError} : l.exit = .error e → Settles limit l (.error (.unwatched e))
  | cancelled : l.exit = .ok none → l.cancelled = true → Settles limit l (.error .cancelled)
  | timedOut : l.exit = .ok none → l.cancelled = false → limit.nanoseconds < l.elapsed.nanoseconds →
      Settles limit l (.error (.timedOut limit))

/-- A wait after which the stream is waited for again. -/
structure Awaited (a : Arrival) : Prop where
  missing : a.captured = none
  notCancelled : a.cancelled = false
  inTime : a.remaining.nanoseconds ≠ 0

/-- What a wait for a stream settles. A stream that has arrived counts whatever the token and the
clock show. -/
inductive Delivers (limit : Duration) (a : Arrival) : Except Failure.Cause Captured → Prop
  | captured {c : Captured} : a.captured = some (.ok c) → Delivers limit a (.ok c)
  | failed {e : SystemError} :
      a.captured = some (.error e) → Delivers limit a (.error (.unwatched e))
  | cancelled : a.captured = none → a.cancelled = true → Delivers limit a (.error .cancelled)
  | timedOut : a.captured = none → a.cancelled = false → a.remaining.nanoseconds = 0 →
      Delivers limit a (.error (.timedOut limit))

section

variable {limit : Duration}

theorem pending_or_settles (limit : Duration) (l : Look) :
    Pending limit l ∨ ∃ r, Settles limit l r := by
  rcases hexit : l.exit with e | status
  · exact .inr ⟨_, .unwatched hexit⟩
  · cases status with
    | some status => exact .inr ⟨_, .ended hexit⟩
    | none =>
      cases hcancelled : l.cancelled with
      | true => exact .inr ⟨_, .cancelled hexit hcancelled⟩
      | false =>
        rcases Nat.lt_or_ge limit.nanoseconds l.elapsed.nanoseconds with hlate | htime
        · exact .inr ⟨_, .timedOut hexit hcancelled hlate⟩
        · exact .inl ⟨hexit, hcancelled, htime⟩

theorem awaited_or_delivers (limit : Duration) (a : Arrival) :
    Awaited a ∨ ∃ r, Delivers limit a r := by
  rcases hcaptured : a.captured with _ | (e | c)
  · cases hcancelled : a.cancelled with
    | true => exact .inr ⟨_, .cancelled hcaptured hcancelled⟩
    | false =>
      by_cases hdue : a.remaining.nanoseconds = 0
      · exact .inr ⟨_, .timedOut hcaptured hcancelled hdue⟩
      · exact .inl ⟨hcaptured, hcancelled, hdue⟩
  · exact .inr ⟨_, .failed hcaptured⟩
  · exact .inr ⟨_, .captured hcaptured⟩

/-! ## The loops -/

/-- Among observations that are made one after the other, the first one that settles the matter. -/
structure FirstAt {α β : Type} (goesOn : α → Prop) (settles : α → β → Prop) (seen : Nat → α)
    (n : Nat) (r : β) : Prop where
  before : ∀ k < n, goesOn (seen k)
  here : settles (seen n) r

namespace FirstAt

variable {α β : Type} {goesOn : α → Prop} {settles : α → β → Prop} {seen : Nat → α} {k n : Nat}
  {r : β}

theorem at_once (h : settles (seen k) r) : FirstAt goesOn settles (fun i => seen (k + i)) 0 r where
  before _ hi := absurd hi (Nat.not_lt_zero _)
  here := h

/-- The first observation behind one that settles nothing comes one later. -/
theorem later_iff (hk : goesOn (seen k)) :
    FirstAt goesOn settles (fun i => seen (k + i)) (n + 1) r ↔
    FirstAt goesOn settles (fun i => seen (k + 1 + i)) n r := by
  have hseen (i : Nat) : seen (k + (i + 1)) = seen (k + 1 + i) := by
    rw [Nat.add_right_comm, Nat.add_assoc]
  constructor
  · intro h
    refine ⟨fun i hi => ?_, hseen n ▸ h.here⟩
    exact hseen i ▸ h.before (i + 1) (Nat.succ_lt_succ hi)
  · intro h
    refine ⟨fun i hi => ?_, (hseen n).symm ▸ h.here⟩
    cases i with
    | zero => exact hk
    | succ i => exact (hseen i).symm ▸ h.before i (Nat.lt_of_succ_lt_succ hi)

end FirstAt

/-- What is done about a process once it is settled how it ends. -/
def lastActions : Except Failure.Cause (Option Int) → List Action
  | .ok _ => []
  | .error _ => [.kill, .reap]

variable {looks : Nat → Look} {arrivals : Nat → Arrival} {fuel k : Nat}

theorem awaitExit_of_settles {r : Except Failure.Cause (Option Int)}
    (h : Settles limit (looks k) r) :
    awaitExit limit looks (fuel + 1) k = some (r, lastActions r) := by
  rw [awaitExit]
  cases h with
  | ended hexit | unwatched hexit => simp [hexit, lastActions, stopProcess]
  | cancelled hexit hcancelled => simp [hexit, hcancelled, lastActions, stopProcess]
  | timedOut hexit hcancelled hlate => simp [hexit, hcancelled, hlate, lastActions, stopProcess]

theorem awaitExit_of_pending (h : Pending limit (looks k)) : awaitExit limit looks (fuel + 1) k =
    (awaitExit limit looks fuel (k + 1)).map fun r => (r.1, .pause :: r.2) := by
  rw [awaitExit]
  simp [h.running, h.notCancelled, Nat.not_lt.2 h.inTime]

theorem awaitCapture_of_delivers {r : Except Failure.Cause Captured}
    (h : Delivers limit (arrivals k) r) :
    awaitCapture limit arrivals (fuel + 1) k = some r := by
  rw [awaitCapture]
  cases h with
  | captured hcaptured | failed hcaptured => simp [hcaptured]
  | cancelled hcaptured hcancelled => simp [hcaptured, hcancelled]
  | timedOut hcaptured hcancelled hdue => simp [hcaptured, hcancelled, hdue]

theorem awaitCapture_of_awaited (h : Awaited (arrivals k)) :
    awaitCapture limit arrivals (fuel + 1) k = awaitCapture limit arrivals fuel (k + 1) := by
  rw [awaitCapture]
  simp [h.missing, h.notCancelled, h.inTime]

theorem awaitExit_some {r : Except Failure.Cause (Option Int)} {actions : List Action}
    (h : awaitExit limit looks fuel k = some (r, actions)) :
    ∃ n < fuel, FirstAt (Pending limit) (Settles limit) (fun i => looks (k + i)) n r ∧
      actions = List.replicate n .pause ++ lastActions r := by
  induction fuel generalizing k actions with
  | zero => cases h
  | succ fuel ih =>
    rcases pending_or_settles limit (looks k) with hpending | ⟨r', hsettles⟩
    · rw [awaitExit_of_pending hpending] at h
      obtain ⟨later, hlater, heq⟩ := Option.map_eq_some_iff.1 h
      obtain ⟨rfl, rfl⟩ := Prod.mk.inj heq
      obtain ⟨n, hn, hfirst, hactions⟩ := ih hlater
      exact ⟨n + 1, Nat.succ_lt_succ hn, (FirstAt.later_iff hpending).2 hfirst,
        by rw [hactions]; rfl⟩
    · rw [awaitExit_of_settles hsettles] at h
      cases h
      exact ⟨0, Nat.succ_pos _, .at_once hsettles, rfl⟩

theorem awaitExit_of_firstAt {r : Except Failure.Cause (Option Int)} {n : Nat} (hn : n < fuel)
    (h : FirstAt (Pending limit) (Settles limit) (fun i => looks (k + i)) n r) :
    awaitExit limit looks fuel k = some (r, List.replicate n .pause ++ lastActions r) := by
  induction n generalizing fuel k with
  | zero =>
    obtain ⟨fuel, rfl⟩ := Nat.exists_eq_succ_of_ne_zero (Nat.ne_zero_of_lt hn)
    exact awaitExit_of_settles h.here
  | succ n ih =>
    obtain ⟨fuel, rfl⟩ := Nat.exists_eq_succ_of_ne_zero (Nat.ne_zero_of_lt hn)
    have hpending : Pending limit (looks k) := h.before 0 (Nat.succ_pos n)
    rw [awaitExit_of_pending hpending,
      ih (Nat.lt_of_succ_lt_succ hn) ((FirstAt.later_iff hpending).1 h)]
    rfl

/-- Waiting for the end of a process ends at the first look that settles it. -/
theorem awaitExit_iff {r : Except Failure.Cause (Option Int)} {actions : List Action} :
    awaitExit limit looks fuel 0 = some (r, actions) ↔
      ∃ n < fuel, FirstAt (Pending limit) (Settles limit) looks n r ∧
        actions = List.replicate n .pause ++ lastActions r := by
  have hlooks : (fun i => looks (0 + i)) = looks := funext fun i => congrArg looks (Nat.zero_add i)
  constructor
  · intro h
    have := awaitExit_some h
    rwa [hlooks] at this
  · rintro ⟨n, hn, hfirst, rfl⟩
    exact awaitExit_of_firstAt hn (hlooks.symm ▸ hfirst)

theorem awaitCapture_some {r : Except Failure.Cause Captured}
    (h : awaitCapture limit arrivals fuel k = some r) :
    ∃ n < fuel, FirstAt Awaited (Delivers limit) (fun i => arrivals (k + i)) n r := by
  induction fuel generalizing k with
  | zero => cases h
  | succ fuel ih =>
    rcases awaited_or_delivers limit (arrivals k) with hawaited | ⟨r', hdelivers⟩
    · rw [awaitCapture_of_awaited hawaited] at h
      obtain ⟨n, hn, hfirst⟩ := ih h
      exact ⟨n + 1, Nat.succ_lt_succ hn, (FirstAt.later_iff hawaited).2 hfirst⟩
    · rw [awaitCapture_of_delivers hdelivers] at h
      cases h
      exact ⟨0, Nat.succ_pos _, .at_once hdelivers⟩

theorem awaitCapture_of_firstAt {r : Except Failure.Cause Captured} {n : Nat} (hn : n < fuel)
    (h : FirstAt Awaited (Delivers limit) (fun i => arrivals (k + i)) n r) :
    awaitCapture limit arrivals fuel k = some r := by
  induction n generalizing fuel k with
  | zero =>
    obtain ⟨fuel, rfl⟩ := Nat.exists_eq_succ_of_ne_zero (Nat.ne_zero_of_lt hn)
    exact awaitCapture_of_delivers h.here
  | succ n ih =>
    obtain ⟨fuel, rfl⟩ := Nat.exists_eq_succ_of_ne_zero (Nat.ne_zero_of_lt hn)
    have hawaited : Awaited (arrivals k) := h.before 0 (Nat.succ_pos n)
    rw [awaitCapture_of_awaited hawaited]
    exact ih (Nat.lt_of_succ_lt_succ hn) ((FirstAt.later_iff hawaited).1 h)

/-- Waiting for a captured stream ends at the first wait that settles it. -/
theorem awaitCapture_iff {r : Except Failure.Cause Captured} :
    awaitCapture limit arrivals fuel 0 = some r ↔
      ∃ n < fuel, FirstAt Awaited (Delivers limit) arrivals n r := by
  have harrivals : (fun i => arrivals (0 + i)) = arrivals :=
    funext fun i => congrArg arrivals (Nat.zero_add i)
  constructor
  · intro h
    have := awaitCapture_some h
    rwa [harrivals] at this
  · rintro ⟨n, hn, hfirst⟩
    exact awaitCapture_of_firstAt hn (harrivals.symm ▸ hfirst)

end

/-! ## Ways to end -/

/-- The process is seen to end, or its run is given up, at the look with this number. -/
structure ExitAt (limit : Duration) (o : Observed) (n : Nat)
    (r : Except Failure.Cause (Option Int)) : Prop
    extends FirstAt (Pending limit) (Settles limit) o.looks n r where
  soon : n < lookBound limit

/-- A stream is captured, or given up, at the wait with this number. -/
structure CapturedAt (limit : Duration) (arrivals : Nat → Arrival) (n : Nat)
    (r : Except Failure.Cause Captured) : Prop
    extends FirstAt Awaited (Delivers limit) arrivals n r where
  soon : n < lookBound limit

/-- How a run ends and what is done about its process. -/
inductive Ends (limit : Duration) (o : Observed) : Except Failure.Cause Output → List Action → Prop
  /-- The run is given up while the process has not been seen to end, so that it is killed and
  reaped. -/
  | stopped {n : Nat} {c : Failure.Cause} : ExitAt limit o n (.error c) →
      Ends limit o (.error c) (List.replicate n .pause ++ [.kill, .reap])
  /-- The process has ended and its output is given up. -/
  | withoutStdout {n i : Nat} {status : Option Int} {c : Failure.Cause} :
      ExitAt limit o n (.ok status) →
      CapturedAt limit o.stdout i (.error c) → Ends limit o (.error c) (List.replicate n .pause)
  | withoutStderr {n i j : Nat} {status : Option Int} {out : Captured} {c : Failure.Cause} :
      ExitAt limit o n (.ok status) → CapturedAt limit o.stdout i (.ok out) →
      CapturedAt limit o.stderr j (.error c) → Ends limit o (.error c) (List.replicate n .pause)
  /-- The process has ended and both streams have been captured. -/
  | finished {n i j : Nat} {status : Option Int} {out err : Captured} :
      ExitAt limit o n (.ok status) → CapturedAt limit o.stdout i (.ok out) →
      CapturedAt limit o.stderr j (.ok err) →
      Ends limit o (.ok ⟨status, out.text, err.text, out.truncated || err.truncated⟩)
        (List.replicate n .pause)

section

variable {limit : Duration} {o : Observed} {n : Nat}

theorem exitAt_iff {r : Except Failure.Cause (Option Int)} {actions : List Action} :
    awaitExit limit o.looks (lookBound limit) 0 = some (r, actions) ↔
      ∃ n, ExitAt limit o n r ∧ actions = List.replicate n .pause ++ lastActions r := by
  rw [awaitExit_iff]
  exact exists_congr fun n =>
    ⟨fun ⟨hn, hfirst, h⟩ => ⟨⟨hfirst, hn⟩, h⟩, fun ⟨hexit, h⟩ => ⟨hexit.soon, hexit.1, h⟩⟩

theorem capturedAt_iff {arrivals : Nat → Arrival} {r : Except Failure.Cause Captured} :
    awaitCapture limit arrivals (lookBound limit) 0 = some r ↔
    ∃ n, CapturedAt limit arrivals n r := by
  rw [awaitCapture_iff]
  exact exists_congr fun n => ⟨fun ⟨hn, hfirst⟩ => ⟨hfirst, hn⟩, fun h => ⟨h.soon, h.1⟩⟩

/-- The ways in which a run ends. -/
theorem supervise_iff {result : Except Failure.Cause Output} {actions : List Action} :
    supervise limit o = some (result, actions) ↔ Ends limit o result actions := by
  constructor
  · intro h
    unfold supervise at h
    split at h
    · cases h
    · next hexit =>
      obtain ⟨n, hn, rfl⟩ := exitAt_iff.1 hexit
      cases h
      exact .stopped hn
    · next status acts hexit =>
      obtain ⟨n, hn, rfl⟩ := exitAt_iff.1 hexit
      rw [lastActions, List.append_nil] at h
      split at h
      · cases h
      · next hout =>
        obtain ⟨i, hi⟩ := capturedAt_iff.1 hout
        cases h
        exact .withoutStdout hn hi
      · next out hout =>
        obtain ⟨i, hi⟩ := capturedAt_iff.1 hout
        split at h
        · cases h
        · next herr =>
          obtain ⟨j, hj⟩ := capturedAt_iff.1 herr
          cases h
          exact .withoutStderr hn hi hj
        · next err herr =>
          obtain ⟨j, hj⟩ := capturedAt_iff.1 herr
          cases h
          exact .finished hn hi hj
  · intro h
    cases h with
    | stopped hn => rw [supervise, exitAt_iff.2 ⟨_, hn, rfl⟩, lastActions]
    | withoutStdout hn hi =>
      rw [supervise, exitAt_iff.2 ⟨_, hn, (List.append_nil _).symm⟩]
      simp only [capturedAt_iff.2 ⟨_, hi⟩]
    | withoutStderr hn hi hj =>
      rw [supervise, exitAt_iff.2 ⟨_, hn, (List.append_nil _).symm⟩]
      simp only [capturedAt_iff.2 ⟨_, hi⟩, capturedAt_iff.2 ⟨_, hj⟩]
    | finished hn hi hj =>
      rw [supervise, exitAt_iff.2 ⟨_, hn, (List.append_nil _).symm⟩]
      simp only [capturedAt_iff.2 ⟨_, hi⟩, capturedAt_iff.2 ⟨_, hj⟩]

end

/-! ## The process -/

/-- What has become of a process. -/
inductive ProcessState where
  | running
  /-- It has been killed and nobody has waited for its end. -/
  | killed
  | reaped
  deriving DecidableEq, Repr

namespace ProcessState

/-- A look that sees the end of a process reaps it. -/
def look (s : ProcessState) (l : Look) : ProcessState :=
  match l.exit with
  | .ok (some _) => .reaped
  | .ok none | .error _ => s

/-- What an action makes of a process. -/
def act : ProcessState → Action → ProcessState
  | .running, .kill => .killed
  | _, .reap => .reaped
  | s, _ => s

/-- What becomes of a process that is looked at before each pause and once more before what follows
the last one. -/
def after (looks : Nat → Look) (s : ProcessState) : (k : Nat) → List Action → ProcessState
  | k, .pause :: rest => (s.look (looks k)).after looks (k + 1) rest
  | k, rest => rest.foldl act (s.look (looks k))

@[simp] theorem act_reap (s : ProcessState) : s.act .reap = .reaped := by
  cases s <;> rfl

theorem look_of_pending {limit : Duration} {l : Look} (s : ProcessState) (h : Pending limit l) :
    s.look l = s := by
  rw [look, h.running]

theorem after_pauses {limit : Duration} {looks : Nat → Look} {k n : Nat} (s : ProcessState)
    (rest : List Action) (h : ∀ i < n, Pending limit (looks (k + i))) :
    s.after looks k (List.replicate n .pause ++ rest) = s.after looks (k + n) rest := by
  induction n generalizing k with
  | zero => rfl
  | succ n ih =>
    have hlater : ∀ i < n, Pending limit (looks (k + 1 + i)) := by
      intro i hi
      have := h (i + 1) (Nat.succ_lt_succ hi)
      rwa [Nat.add_right_comm, Nat.add_assoc]
    have hpending : Pending limit (looks k) := h 0 (Nat.succ_pos n)
    rw [List.replicate_succ, List.cons_append, after, look_of_pending s hpending, ih hlater,
      Nat.add_right_comm, Nat.add_assoc]

end ProcessState

section

variable {limit : Duration} {o : Observed} {n : Nat}

theorem ExitAt.after {r : Except Failure.Cause (Option Int)} (h : ExitAt limit o n r)
    (rest : List Action) :
    ProcessState.running.after o.looks 0 (List.replicate n .pause ++ rest) =
      ProcessState.running.after o.looks n rest := by
  have := ProcessState.after_pauses (k := 0) .running rest
    fun i hi => (Nat.zero_add i).symm ▸ h.before i hi
  rwa [Nat.zero_add] at this

/-- A process that has been seen to end has been reaped by the look that saw it. -/
theorem ExitAt.reaped_of_ok {status : Option Int} (h : ExitAt limit o n (.ok status)) :
    ProcessState.running.after o.looks 0 (List.replicate n .pause) = .reaped := by
  have hpauses := h.after []
  rw [List.append_nil] at hpauses
  cases h.here with
  | ended hexit => rw [hpauses, ProcessState.after, List.foldl_nil, ProcessState.look, hexit]; simp

/-- No way to end leaves a process behind. -/
theorem Ends.reaped {result : Except Failure.Cause Output} {actions : List Action}
    (h : Ends limit o result actions) : ProcessState.running.after o.looks 0 actions = .reaped := by
  cases h with
  | stopped hn =>
    rw [hn.after]
    exact ProcessState.act_reap _
  | withoutStdout hn | withoutStderr hn | finished hn => exact hn.reaped_of_ok

theorem Settles.limit_eq {l : Look} {d : Duration} (h : Settles limit l (.error (.timedOut d))) :
    d = limit := by
  cases h with
  | timedOut => rfl

theorem Delivers.limit_eq {a : Arrival} {d : Duration}
    (h : Delivers limit a (.error (.timedOut d))) :
    d = limit := by
  cases h with
  | timedOut => rfl

/-- A run that takes too long says which limit it was given. -/
theorem Ends.limit_eq {d : Duration} {actions : List Action}
    (h : Ends limit o (.error (.timedOut d)) actions) : d = limit := by
  cases h with
  | stopped hn => exact hn.here.limit_eq
  | withoutStdout _ hi => exact hi.here.limit_eq
  | withoutStderr _ _ hj => exact hj.here.limit_eq

end

/-! ## The clock -/

/-- A look at a process, with the reading of the clock behind it. Readings count nanoseconds. -/
structure Poll where
  exit : Except SystemError (Option (Option Int))
  cancelled : Bool
  clock : Nat

/-- A wait for a stream, with the reading of the clock in front of it. -/
structure Listening where
  clock : Nat
  captured : Option (Except SystemError Captured)
  cancelled : Bool

/-- Everything that is observed of a run, with the readings of the clock. -/
structure Timeline where
  /-- The reading in front of the start of the program, from which the deadline of the streams
  counts. -/
  begun : Nat
  /-- The reading behind the start of the program, from which the time of the process counts. -/
  watched : Nat
  polls : Nat → Poll
  stdout : Nat → Listening
  stderr : Nat → Listening

/-- The time to a deadline that a wait for a stream begins with. -/
def Listening.remaining (deadline : Nat) (l : Listening) : Nat := deadline - l.clock

/-- The clock advances while a stream is waited for: a wait that shows nothing lasts an interval, or
until the deadline if that comes before. -/
structure Listening.Steady (begun deadline : Nat) (waits : Nat → Listening) : Prop where
  first : begun ≤ (waits 0).clock
  next : ∀ k, (waits k).clock + min ((waits k).remaining deadline) pollInterval.nanoseconds ≤
    (waits (k + 1)).clock

namespace Timeline

variable {limit : Duration} {t : Timeline}

/-- The reading at which streams are given up. -/
def deadline (limit : Duration) (t : Timeline) : Nat := limit.nanoseconds + t.begun

/-- What is seen of the run. -/
def observed (limit : Duration) (t : Timeline) : Observed where
  looks k := ⟨(t.polls k).exit, (t.polls k).cancelled, ⟨(t.polls k).clock - t.watched⟩⟩
  stdout k :=
    ⟨⟨(t.stdout k).remaining (t.deadline limit)⟩, (t.stdout k).captured, (t.stdout k).cancelled⟩
  stderr k :=
    ⟨⟨(t.stderr k).remaining (t.deadline limit)⟩, (t.stderr k).captured, (t.stderr k).cancelled⟩

/-- The clock never goes back, and it advances by the pauses between looks and by the waits for
streams. -/
structure Steady (limit : Duration) (t : Timeline) : Prop where
  first : t.watched ≤ (t.polls 0).clock
  next : ∀ k, (t.polls k).clock + pollInterval.nanoseconds ≤ (t.polls (k + 1)).clock
  stdout : Listening.Steady t.begun (t.deadline limit) t.stdout
  stderr : Listening.Steady t.begun (t.deadline limit) t.stderr

theorem Steady.elapsed (h : t.Steady limit) (k : Nat) :
    k * pollInterval.nanoseconds ≤ ((t.observed limit).looks k).elapsed.nanoseconds := by
  have hclock : t.watched + k * pollInterval.nanoseconds ≤ (t.polls k).clock := by
    induction k with
    | zero => simpa using h.first
    | succ k ih =>
      have := h.next k
      rw [Nat.succ_mul]
      omega
  show _ ≤ (t.polls k).clock - t.watched
  omega

theorem Steady.exits (h : t.Steady limit) :
    ∃ result actions, awaitExit limit (t.observed limit).looks (lookBound limit) 0 =
      some (result, actions) := by
  obtain ⟨⟨result, actions⟩, hr⟩ := Option.isSome_iff_exists.1 (awaitExit_ends h.elapsed)
  exact ⟨result, actions, hr⟩

end Timeline

theorem Listening.Steady.captures {limit : Duration} {begun : Nat} {waits : Nat → Listening}
    (h : Listening.Steady begun (limit.nanoseconds + begun) waits) :
    ∃ result, awaitCapture limit (fun k =>
      ⟨⟨(waits k).remaining (limit.nanoseconds + begun)⟩, (waits k).captured, (waits k).cancelled⟩)
        (lookBound limit) 0 = some result := by
  refine Option.isSome_iff_exists.1 (awaitCapture_ends ?_ fun k => ?_)
  · have := h.first
    show limit.nanoseconds + begun - (waits 0).clock ≤ _
    omega
  · have hnext := h.next k
    unfold Listening.remaining at hnext
    show limit.nanoseconds + begun - (waits (k + 1)).clock ≤
      limit.nanoseconds + begun - (waits k).clock - _
    omega

/-- Under a clock that does not go back every run ends. -/
theorem supervise_ends {limit : Duration} {t : Timeline} (h : t.Steady limit) :
    ∃ result actions, supervise limit (t.observed limit) = some (result, actions) := by
  obtain ⟨exit, actions, hexit⟩ := h.exits
  obtain ⟨out, hout⟩ := h.stdout.captures
  obtain ⟨err, herr⟩ := h.stderr.captures
  unfold supervise
  rw [hexit]
  cases exit with
  | error c => exact ⟨_, _, rfl⟩
  | ok status =>
    simp only [Timeline.observed, Timeline.deadline, hout, herr]
    cases out with
    | error c => exact ⟨_, _, rfl⟩
    | ok out => cases err <;> exact ⟨_, _, rfl⟩

/-! ## Accounts -/

/-- What holds of a run when it returns. -/
structure Accounted (limit : Duration) (o : Observed) (result : Except Failure.Cause Output)
    (actions : List Action) : Prop where
  ends : Ends limit o result actions
  /-- It could not have ended otherwise. -/
  only : ∀ other others, Ends limit o other others → other = result ∧ others = actions
  /-- An output comes from a process that was seen to end and from streams that were captured. -/
  seen : ∀ out, result = .ok out → ∃ n i j c d, (o.looks n).exit = .ok (some out.status) ∧
    (o.stdout i).captured = some (.ok c) ∧ (o.stderr j).captured = some (.ok d) ∧
    out.stdout = c.text ∧ out.stderr = d.text ∧ out.truncated = (c.truncated || d.truncated)
  limit : ∀ d, result = .error (.timedOut d) → d = limit
  reaped : ProcessState.running.after o.looks 0 actions = .reaped

theorem Ends.unique {limit : Duration} {o : Observed} {result other : Except Failure.Cause Output}
    {actions others : List Action} (h : Ends limit o result actions)
    (h' : Ends limit o other others) :
    other = result ∧ others = actions := by
  have heq := (supervise_iff.2 h').symm.trans (supervise_iff.2 h)
  exact Prod.mk.inj (Option.some.inj heq)

theorem Ends.seen {limit : Duration} {o : Observed} {out : Output} {actions : List Action}
    (h : Ends limit o (.ok out) actions) : ∃ n i j c d, (o.looks n).exit = .ok (some out.status) ∧
      (o.stdout i).captured = some (.ok c) ∧ (o.stderr j).captured = some (.ok d) ∧
      out.stdout = c.text ∧ out.stderr = d.text ∧ out.truncated = (c.truncated || d.truncated) := by
  cases h with
  | @finished n i j status c d hn hi hj =>
    cases hn.here with
    | ended hexit =>
      cases hi.here with
      | captured hout =>
        cases hj.here with
        | captured herr => exact ⟨n, i, j, c, d, hexit, hout, herr, rfl, rfl, rfl⟩

theorem accounted_of_supervise {limit : Duration} {o : Observed}
    {result : Except Failure.Cause Output} {actions : List Action}
    (h : supervise limit o = some (result, actions)) :
    Accounted limit o result actions where
  ends := supervise_iff.1 h
  only _ _ := (supervise_iff.1 h).unique
  seen out hout := by
    subst hout
    exact (supervise_iff.1 h).seen
  limit d hd := by
    subst hd
    exact (supervise_iff.1 h).limit_eq
  reaped := (supervise_iff.1 h).reaped

end Run

/-! ## The runs of the host -/

namespace Host

/-- What is observed of a process on the host, with the readings of its clock. -/
def Course.timeline (c : Course) (r : Run.Request) (cancelTime : Option Nat) : Run.Timeline :=
  let o := c.observed r cancelTime
  let listening (start : Nat) (seen : Run.Arrival) (k : Nat) : Run.Listening :=
    ⟨(Duration.ofMilliseconds (start + k * interval)).nanoseconds, seen.captured, seen.cancelled⟩
  { begun := 0
    watched := 0
    polls k := ⟨(o.looks k).exit, (o.looks k).cancelled, (o.looks k).elapsed.nanoseconds⟩
    stdout k := listening c.seenAt (o.stdout k) k
    stderr k := listening (max c.seenAt c.stdoutClosed) (o.stderr k) k }

variable (c : Course) (r : Run.Request) (cancelTime : Option Nat)

theorem Course.observed_timeline :
    (c.timeline r cancelTime).observed r.timeout = c.observed r cancelTime := rfl

theorem Course.steady_timeline : (c.timeline r cancelTime).Steady r.timeout := by
  have hinterval : Run.pollInterval.nanoseconds = interval * 1000000 := rfl
  have hwaits (start : Nat) (waits : Nat → Run.Listening) (deadline : Nat)
      (h : ∀ k, (waits k).clock = (Duration.ofMilliseconds (start + k * interval)).nanoseconds) :
      Run.Listening.Steady 0 deadline waits := by
    refine ⟨Nat.zero_le _, fun k => ?_⟩
    rw [h, h, hinterval]
    show (start + k * interval) * 1000000 + _ ≤ (start + (k + 1) * interval) * 1000000
    rw [Nat.succ_mul]
    omega
  refine ⟨Nat.zero_le _, fun k => ?_, hwaits _ _ _ fun _ => rfl, hwaits _ _ _ fun _ => rfl⟩
  show k * interval * 1000000 + readingDelay + _ ≤ (k + 1) * interval * 1000000 + readingDelay
  rw [hinterval, Nat.succ_mul]
  omega

/-- What a supervised run gives, as the result of a request, and the files that it leaves. -/
theorem watch_of_supervise {e : Environment} {files seen : Files} {image : Image}
    {result : Except Run.Failure.Cause Run.Output} {actions : List Run.Action}
    (h : Run.supervise r.timeout ((course e seen r cancelTime image).1.observed r cancelTime) =
      some (result, actions)) :
    watch e cancelTime files seen r image = (result.mapError (⟨r.program.display, ·⟩),
      { (course e seen r cancelTime image).2 with directory := files.directory }) := by
  simp only [watch, h]
  cases result <;> rfl

/-- The run of a program is supervised, and ends with what is seen of the program itself. -/
structure Supervised (r : Run.Request) (cancelTime : Option Nat) (c : Course)
    (result : Except Run.Failure.Cause Run.Output) (actions : List Run.Action) : Prop where
  observed : (c.timeline r cancelTime).observed r.timeout = c.observed r cancelTime
  steady : (c.timeline r cancelTime).Steady r.timeout
  supervise : Run.supervise r.timeout (c.observed r cancelTime) = some (result, actions)
  accounted : Run.Accounted r.timeout (c.observed r cancelTime) result actions

theorem exists_supervised (c : Course) (r : Run.Request) (cancelTime : Option Nat) :
    ∃ result actions, Supervised r cancelTime c result actions := by
  have hsteady := c.steady_timeline r cancelTime
  obtain ⟨result, actions, hrun⟩ := Run.supervise_ends hsteady
  rw [c.observed_timeline r cancelTime] at hrun
  exact ⟨result, actions, c.observed_timeline r cancelTime, hsteady, hrun,
    Run.accounted_of_supervise hrun⟩

/-- Every supervised run ends under a clock that does not go back, and its account is in order. A
run on the host is not begun without a deadline, and has no process when its program is not found.
Otherwise the course of the program is supervised: what is seen of it is under such a clock, the run
gives the result of the supervision, and its files are those that the program leaves. -/
theorem runs_accounted :
    (∀ (limit : Duration) (t : Run.Timeline), t.Steady limit → ∃ result actions,
      Run.supervise limit (t.observed limit) = some (result, actions) ∧
        Run.Accounted limit (t.observed limit) result actions) ∧
    ∀ (now : Run.Instant) (e : Environment) (cancelTime : Option Nat) (files : Files)
      (r : Run.Request),
      match now.after? r.timeout, prepare e files r with
      | none, _ =>
        execute now e cancelTime files r = (.error ⟨r.program.display, .noDeadline⟩, files)
      | some _, .error err =>
        execute now e cancelTime files r = (.error ⟨r.program.display, .notStarted err⟩, files)
      | some _, .ok (image, seen) =>
        ∃ (c : Course) (after : Files) (result : Except Run.Failure.Cause Run.Output)
          (actions : List Run.Action),
          course e seen r cancelTime image = (c, after) ∧ Supervised r cancelTime c result actions ∧
          execute now e cancelTime files r =
            (result.mapError (⟨r.program.display, ·⟩),
              { after with directory := files.directory }) := by
  refine ⟨fun limit t ht => ?_, fun now e cancelTime files r => ?_⟩
  · obtain ⟨result, actions, hrun⟩ := Run.supervise_ends ht
    exact ⟨result, actions, hrun, Run.accounted_of_supervise hrun⟩
  · cases hdeadline : now.after? r.timeout with
    | none => exact execute_of_noDeadline hdeadline
    | some deadline =>
      have hexecute : execute now e cancelTime files r = start e cancelTime files r := by
        rw [execute, hdeadline]
      cases hprepare : prepare e files r with
      | error err => exact hexecute.trans (start_of_error hprepare)
      | ok prepared =>
        obtain ⟨image, seen⟩ := prepared
        obtain ⟨result, actions, hsupervised⟩ :=
          exists_supervised (course e seen r cancelTime image).1 r cancelTime
        refine ⟨_, _, result, actions, rfl, hsupervised, ?_⟩
        rw [hexecute, start, hprepare]
        exact watch_of_supervise r cancelTime hsupervised.supervise

/-- A directory for the utilities of the host. -/
def utilitiesOnly : Files :=
  ⟨[([(Path.ofString "usr").bytes, (Path.ofString "bin").bytes], .directory),
    ([(Path.ofString "usr").bytes], .directory)], []⟩

/-- The utility that writes its arguments, called so that two of three bytes are kept. -/
def echoing : Run.Request :=
  { (Run.Request.of (.ofString "/usr/bin/echo")).textArgument "ok" with outputLimit := 2 }

/-- The program that this calls. -/
def echoImage : Image := ⟨.utility (echo false), none, []⟩

/-- What the program does. -/
def echoed : Course := ⟨some (1, some 0), (Path.ofString "ok\n").bytes, [], 1, 1⟩

theorem load_echoing : Program.load utilitiesOnly echoing.program = .ok echoImage := by
  have hlocate : utilitiesOnly.locate true echoing.program =
      .ok (Path.ofString "/usr/bin/echo").names := by cbv
  have hbuiltIn : Program.builtIn? (Path.ofString "/usr/bin/echo").names =
      some echoImage.program := rfl
  rw [Program.load, Program.interpreterLimit, Program.loadWithin, hlocate]
  simp only [hbuiltIn]
  rfl

theorem prepare_echoing :
    prepare ⟨[], none⟩ utilitiesOnly echoing = .ok (echoImage, utilitiesOnly) := by
  have hnul : (echoing.program.bytes :: echoing.arguments ++
      (echoing.directory.map (·.bytes)).toList).any (·.contains 0) = false := by cbv
  have hname : Raw.path (Raw.ofPath echoing.program) = echoing.program := by cbv
  have hfind (searchPath : Option Raw) :
      Program.find utilitiesOnly searchPath (Raw.ofPath echoing.program) =
        .ok (echoing.program, echoImage) := by
    rw [Program.find, if_neg (by decide +kernel), if_pos (by decide +kernel), hname, load_echoing]
    rfl
  have henter : enter utilitiesOnly echoing.directory = .ok utilitiesOnly := rfl
  rw [prepare, if_neg (by rw [hnul]; exact Bool.false_ne_true), henter]
  simp only [hfind]

theorem course_echoing :
    course ⟨[], none⟩ utilitiesOnly echoing (some 30) echoImage = (echoed, utilitiesOnly) := by
  cbv

theorem supervise_echoed : Run.supervise echoing.timeout (echoed.observed echoing (some 30)) =
    some (.ok ⟨some 0, "ok", "", true⟩, [.pause]) := by
  cbv

/-- A process that has ended when a look finds the token cancelled and the time over, with streams
that arrive behind the deadline. -/
def lateTimeline : Run.Timeline where
  begun := 0
  watched := 5
  polls k := ⟨.ok (if k = 0 then none else some (some 0)), k != 0, 5 + k * 1000000000⟩
  stdout k := ⟨2000000000 + k, some (.ok ⟨[0x6F, 0x6B], false⟩), true⟩
  stderr k := ⟨2000000000 + k, some (.ok ⟨[0x6F, 0x6B], false⟩), true⟩

theorem steady_lateTimeline : lateTimeline.Steady (.ofMilliseconds 100) := by
  have hwaits : Run.Listening.Steady 0 (lateTimeline.deadline (.ofMilliseconds 100))
      lateTimeline.stdout := by
    refine ⟨Nat.zero_le _, fun k => ?_⟩
    have hpast : (lateTimeline.stdout k).remaining
        (lateTimeline.deadline (.ofMilliseconds 100)) = 0 := by
      show 100000000 + 0 - (2000000000 + k) = 0
      omega
    rw [hpast, Nat.zero_min]
    exact Nat.le_succ _
  refine ⟨Nat.le_refl _, fun k => ?_, hwaits, hwaits⟩
  show 5 + k * 1000000000 + 50000000 ≤ 5 + (k + 1) * 1000000000
  omega

/-- Of a process that ends late the output is reported. So is that of a program on the host which
the look after a cancellation finds at its end. -/
theorem runs_accounted_late :
    (lateTimeline.Steady (.ofMilliseconds 100) ∧ ∃ result actions,
      Run.supervise (.ofMilliseconds 100) (lateTimeline.observed (.ofMilliseconds 100)) =
        some (result, actions) ∧
      Run.Accounted (.ofMilliseconds 100) (lateTimeline.observed (.ofMilliseconds 100)) result
        actions ∧
      result = .ok ⟨some 0, "ok", "ok", false⟩ ∧ actions = [.pause]) ∧
    ∃ result actions, Supervised echoing (some 30) echoed result actions ∧
      execute beginning ⟨[], none⟩ (some 30) utilitiesOnly echoing =
        (result.mapError (⟨echoing.program.display, ·⟩), { utilitiesOnly with directory := [] }) ∧
      result = .ok ⟨some 0, "ok", "", true⟩ ∧ actions = [.pause] := by
  constructor
  · have hrun : Run.supervise (.ofMilliseconds 100)
        (lateTimeline.observed (.ofMilliseconds 100)) =
          some (.ok ⟨some 0, "ok", "ok", false⟩, [.pause]) := rfl
    obtain ⟨result, actions, hend, haccounted⟩ := runs_accounted.1 _ _ steady_lateTimeline
    obtain ⟨rfl, rfl⟩ := Prod.mk.inj (Option.some.inj (hend.symm.trans hrun))
    exact ⟨steady_lateTimeline, _, _, hend, haccounted, rfl, rfl⟩
  · have hrun := runs_accounted.2 beginning ⟨[], none⟩ (some 30) utilitiesOnly echoing
    obtain ⟨deadline, hdeadline⟩ : ∃ deadline, beginning.after? echoing.timeout = some deadline :=
      ⟨_, rfl⟩
    simp only [hdeadline, prepare_echoing] at hrun
    obtain ⟨c, after, result, actions, hcourse, hsupervised, hexecute⟩ := hrun
    obtain ⟨rfl, rfl⟩ := Prod.mk.inj (hcourse.symm.trans course_echoing)
    have hends := hsupervised.supervise.symm.trans supervise_echoed
    obtain ⟨rfl, rfl⟩ := Prod.mk.inj (Option.some.inj hends)
    exact ⟨_, _, hsupervised, hexecute, rfl, rfl⟩

end Host

end ClarityCheck
