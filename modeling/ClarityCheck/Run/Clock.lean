import ClarityCheck.Duration

/-!
# The clock

A reading of the clock counts seconds in 64 bits with a sign, and nanoseconds within the second. A
deadline beyond that range cannot be written down.

Main statement: `after?_eq_none_iff` (exactly the deadlines whose seconds do not fit are refused).
-/

namespace ClarityCheck.Run

/-- The number of nanoseconds of a second. -/
def nanosecondsPerSecond : Nat := 1000000000

/-- A reading of the clock. -/
structure Instant where
  seconds : Int
  nanoseconds : Nat
  seconds_ge : -0x8000_0000_0000_0000 ≤ seconds
  seconds_lt : seconds < 0x8000_0000_0000_0000
  nanoseconds_lt : nanoseconds < nanosecondsPerSecond

namespace Instant

/-- The seconds of the reading that lies a duration behind another one. -/
def secondsAfter (t : Instant) (d : Duration) : Int :=
  t.seconds + ((t.nanoseconds + d.nanoseconds) / nanosecondsPerSecond : Nat)

/-- The reading that lies a duration behind another one, if its seconds fit into 64 bits. -/
def after? (t : Instant) (d : Duration) : Option Instant :=
  if h : t.secondsAfter d < 0x8000_0000_0000_0000 then
    some
      { seconds := t.secondsAfter d
        nanoseconds := (t.nanoseconds + d.nanoseconds) % nanosecondsPerSecond
        seconds_ge :=
          Int.le_trans t.seconds_ge (Int.le_add_of_nonneg_right (Int.natCast_nonneg _))
        seconds_lt := h
        nanoseconds_lt := Nat.mod_lt _ (by decide) }
  else none

/-- Exactly the readings whose seconds do not fit are refused. -/
theorem after?_eq_none_iff (t : Instant) (d : Duration) :
    t.after? d = none ↔ 0x8000_0000_0000_0000 ≤ t.secondsAfter d := by
  unfold after?
  split <;> simp <;> omega

end Instant

end ClarityCheck.Run
