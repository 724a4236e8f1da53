import MeshTelemetry.Ticker

/-!
# The ticks of a ticker

The due times of a ticker are points of a grid whose mesh is the period. `Ticker.reached` counts the
points from the next due time up to now, and `Ticker.ticks` lists the ticks that are handled one after
the other at a given time. A ticker that is late skips all of these ticks but the first
(`ticks_of_late`); one that is in time handles a tick for every point reached (`ticks_of_inTime`). In
either case the next tick is due at the first point of the grid behind now (`due_run`).
-/

namespace MeshTelemetry

/-- A tick: when it was due, and when it was handled. -/
structure Tick where
  due : Nat
  handled : Nat
deriving Repr, DecidableEq

/-- Handled no later than a ticker allows without skipping. -/
def Tick.InTime (t : Tick) : Prop :=
  t.handled ≤ t.due + Ticker.grace

namespace Ticker

/-- The ticks that are due by now, in the order in which they are handled. -/
def ticks (t : Ticker) (now : Nat) : List Tick :=
  if t.due ≤ now then
    have := t.due_lt_next now
    ⟨t.due, now⟩ :: ticks (t.next now) now
  else []
termination_by now + 1 - t.due

/-- How many points of the grid lie between the next due time and now. -/
def reached (t : Ticker) (now : Nat) : Nat :=
  (now + t.period - t.due) / t.period

/-- A ticker counts the ticks that are listed. -/
theorem fst_run (t : Ticker) (now : Nat) : (t.run now).1 = (t.ticks now).length := by
  fun_induction run t now with
  | case1 t arrived forward count last tail ih =>
    rw [tail] at ih
    rw [ticks, if_pos arrived, List.length_cons, ← ih]
  | case2 t ahead => rw [ticks, if_neg ahead, List.length_nil]

theorem period_run (t : Ticker) (now : Nat) : (t.run now).2.period = t.period := by
  fun_induction run t now with
  | case1 t arrived forward count last tail ih =>
    rw [tail] at ih
    exact ih
  | case2 t ahead => rfl

/-- Nothing is due when all ticks that were due have been handled. -/
theorem lt_due_run (t : Ticker) (now : Nat) : now < (t.run now).2.due := by
  fun_induction run t now with
  | case1 t arrived forward count last tail ih =>
    rw [tail] at ih
    exact ih
  | case2 t ahead => exact Nat.not_le.mp ahead

variable {t : Ticker} {now : Nat}

/-! ## The grid -/

theorem ticks_of_lt (ahead : now < t.due) : t.ticks now = [] := by
  rw [ticks, if_neg (Nat.not_le.mpr ahead)]

theorem reached_of_lt (ahead : now < t.due) : t.reached now = 0 :=
  Nat.div_eq_of_lt (by have := t.period_pos; omega)

theorem reached_of_le (arrived : t.due ≤ now) :
    t.reached now = (now - t.due) / t.period + 1 := by
  unfold reached
  rw [← Nat.add_div_right _ t.period_pos]
  congr 1
  omega

theorem due_next_of_late (late : t.due + grace < now) :
    (t.next now).due = t.due + t.reached now * t.period := by
  have split := Nat.div_add_mod (now - t.due) t.period
  have small := Nat.mod_lt (now - t.due) t.period_pos
  rw [reached_of_le (by omega), Nat.add_mul, Nat.one_mul, Nat.mul_comm]
  refine (if_pos (by omega)).trans ?_
  omega

theorem due_next_of_inTime (inTime : now ≤ t.due + grace) :
    (t.next now).due = t.due + t.period :=
  if_neg (by omega)

/-- Behind a late tick nothing is due. -/
theorem lt_due_next_of_late (late : t.due + grace < now) : now < (t.next now).due := by
  have small := Nat.mod_lt (now - t.due) t.period_pos
  refine Nat.lt_of_lt_of_eq ?_ (if_pos (by omega)).symm
  omega

/-- A tick in time uses up one of the points reached. -/
theorem reached_next_of_inTime (arrived : t.due ≤ now) (inTime : now ≤ t.due + grace) :
    t.reached now = (t.next now).reached now + 1 := by
  have period : (t.next now).period = t.period := rfl
  unfold reached
  rw [period, due_next_of_inTime inTime, ← Nat.add_div_right _ t.period_pos]
  congr 1
  omega

/-- The next tick is due at the first point of the grid behind now. -/
theorem due_run (t : Ticker) (now : Nat) :
    (t.run now).2.due = t.due + t.reached now * t.period := by
  fun_induction run t now with
  | case1 t arrived forward count last tail ih =>
    have period : (t.next now).period = t.period := rfl
    rw [tail, period] at ih
    rw [ih]
    rcases Nat.lt_or_ge (t.due + grace) now with late | inTime
    · rw [due_next_of_late late, reached_of_lt (lt_due_next_of_late late)]
      omega
    · rw [due_next_of_inTime inTime, reached_next_of_inTime arrived inTime, Nat.succ_mul]
      omega
  | case2 t ahead =>
    rw [reached_of_lt (Nat.not_le.mp ahead), Nat.zero_mul]
    rfl

/-! ## The ticks -/

theorem ticks_of_late (late : t.due + grace < now) : t.ticks now = [⟨t.due, now⟩] := by
  rw [ticks, if_pos (by omega), ticks_of_lt (lt_due_next_of_late late)]

/-- In time, each point of the grid that has been reached has its tick. -/
theorem ticks_of_inTime (inTime : now ≤ t.due + grace) :
    t.ticks now = (List.range (t.reached now)).map fun i => ⟨t.due + i * t.period, now⟩ := by
  fun_induction ticks t now with
  | case1 t arrived forward ih =>
    have period : (t.next now).period = t.period := rfl
    have next := due_next_of_inTime inTime
    rw [ih (by omega), reached_next_of_inTime arrived inTime, List.range_succ_eq_map, List.map_cons,
      List.map_map, Nat.zero_mul, Nat.add_zero]
    refine congrArg (_ :: ·) (List.map_congr_left fun i _ => ?_)
    simp only [Function.comp_apply, Tick.mk.injEq, and_true]
    rw [period, next, Nat.succ_mul]
    omega
  | case2 t ahead =>
    rw [reached_of_lt (Nat.not_le.mp ahead)]
    rfl

/-- The ticks are handled now, and each for a point of its own. -/
theorem mem_ticks {tick : Tick} (mem : tick ∈ t.ticks now) :
    tick.handled = now ∧ ∃ i < t.reached now, tick.due = t.due + i * t.period := by
  rcases Nat.lt_or_ge (t.due + grace) now with late | inTime
  · rw [ticks_of_late late] at mem
    cases List.mem_singleton.mp mem
    refine ⟨rfl, 0, ?_, by simp⟩
    rw [reached_of_le (by omega)]
    exact Nat.succ_pos _
  · rw [ticks_of_inTime inTime] at mem
    obtain ⟨i, inside, rfl⟩ := List.mem_map.mp mem
    exact ⟨rfl, i, List.mem_range.mp inside, rfl⟩

theorem pairwise_ticks (t : Ticker) (now : Nat) :
    (t.ticks now).Pairwise fun a b => a.due < b.due := by
  rcases Nat.lt_or_ge (t.due + grace) now with late | inTime
  · rw [ticks_of_late late]
    exact List.pairwise_singleton _ _
  · rw [ticks_of_inTime inTime, List.pairwise_map]
    refine List.pairwise_lt_range.imp fun {i j} less => ?_
    have := Nat.mul_lt_mul_of_pos_right less t.period_pos
    dsimp only
    omega

/-- There is a tick exactly if the due time has been reached. -/
theorem ticks_eq_nil_iff : t.ticks now = [] ↔ now < t.due := by
  refine ⟨fun none => Nat.not_le.mp fun arrived => ?_, ticks_of_lt⟩
  rw [ticks, if_pos arrived] at none
  cases none

/-- The next tick is due at most a period from now, if the last one was not due later. -/
theorem due_run_le (near : t.due ≤ now + t.period) : (t.run now).2.due ≤ now + t.period := by
  rw [due_run]
  rcases Nat.lt_or_ge now t.due with ahead | arrived
  · rw [reached_of_lt ahead]
    omega
  · have := Nat.div_mul_le_self (now - t.due) t.period
    rw [reached_of_le arrived, Nat.succ_mul]
    omega

theorem length_ticks_of_inTime (inTime : now ≤ t.due + grace) :
    (t.ticks now).length = t.reached now := by
  rw [ticks_of_inTime inTime, List.length_map, List.length_range]

/-- If each tick is handled in time, no point is skipped. -/
theorem length_ticks_of_forall_inTime (inTime : ∀ tick ∈ t.ticks now, tick.InTime) :
    (t.ticks now).length = t.reached now := by
  refine length_ticks_of_inTime (Nat.not_lt.mp fun late => ?_)
  have first : Tick.InTime ⟨t.due, now⟩ := inTime _ (by simp [ticks_of_late late])
  exact Nat.not_lt.mpr first late

/-- There are no more ticks than points reached, and no more than fit the time that a tick may be
late. -/
theorem length_ticks_le (t : Ticker) (now : Nat) :
    (t.ticks now).length ≤ t.reached now ∧ (t.ticks now).length ≤ grace / t.period + 1 := by
  rcases Nat.lt_or_ge now t.due with ahead | arrived
  · rw [ticks_of_lt ahead]
    exact ⟨Nat.zero_le _, Nat.zero_le _⟩
  rcases Nat.lt_or_ge (t.due + grace) now with late | inTime
  · rw [ticks_of_late late, reached_of_le arrived]
    exact ⟨Nat.le_add_left 1 _, Nat.le_add_left 1 _⟩
  · rw [length_ticks_of_inTime inTime]
    refine ⟨Nat.le_refl _, ?_⟩
    rw [reached_of_le arrived]
    exact Nat.succ_le_succ (Nat.div_le_div_right (by omega))

/-- With a period longer than a tick may be late, there is at most one tick at a time. -/
theorem fst_run_of_grace_lt (long : grace < t.period) :
    (t.run now).1 = if t.due ≤ now then 1 else 0 := by
  rw [fst_run]
  split
  · rename_i arrived
    have atMost := (length_ticks_le t now).2
    rw [Nat.div_eq_of_lt long] at atMost
    refine Nat.le_antisymm atMost (List.length_pos_iff.mpr fun none => ?_)
    exact Nat.not_le.mpr (ticks_eq_nil_iff.mp none) arrived
  · rename_i ahead
    rw [ticks_of_lt (Nat.not_le.mp ahead), List.length_nil]

end Ticker

end MeshTelemetry
