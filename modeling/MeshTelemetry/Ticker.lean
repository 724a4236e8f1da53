import MeshTelemetry.Interval

/-!
A clock that ticks once a period and never catches up.

A tick that is handled in time makes the next one due a period after it was due itself. One that is
handled more than five milliseconds late skips what was missed: the next one is due at the first
point of the grid after now. Times and periods are in nanoseconds.
-/

namespace MeshTelemetry

/-- The due time of the next tick, and the period. -/
structure Ticker where
  due : Nat
  period : Nat
  period_pos : 0 < period
deriving Repr, DecidableEq

namespace Ticker

/-- How late a tick may be handled without skipping. -/
def grace : Nat := 5 * Interval.millisecond

/-- The ticker behind a tick that is handled now. -/
def next (t : Ticker) (now : Nat) : Ticker :=
  { t with
    due :=
      if grace < now - t.due then now + t.period - (now - t.due) % t.period
      else t.due + t.period }

/-- A tick moves the due time forward. -/
theorem due_lt_next (t : Ticker) (now : Nat) : t.due < (t.next now).due := by
  have pos := t.period_pos
  unfold next
  dsimp only
  split
  · have := Nat.mod_lt (now - t.due) pos
    omega
  · omega

/-- How many ticks are due by now when they are handled one after the other, and the ticker behind
them. -/
def run (t : Ticker) (now : Nat) : Nat × Ticker :=
  if t.due ≤ now then
    have := t.due_lt_next now
    let (count, last) := run (t.next now) now
    (count + 1, last)
  else (0, t)
termination_by now + 1 - t.due

end Ticker

end MeshTelemetry
