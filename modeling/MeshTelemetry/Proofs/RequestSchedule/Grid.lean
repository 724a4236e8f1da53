import MeshTelemetry.Proofs.RequestSchedule.Run

/-!
# Requests keep to their grid

From its start on, the schedule waits for points of one grid: the start time plus a whole number of
periods. `OnGrid` is the invariant. It says for which point the schedule waits, that each tick so far
belonged to an earlier point of its own, and how many ticks there have been. Steps from outside other
than a stop keep it (`OnGrid.apply`), and so does the loop, which moves on to a later point
(`OnGrid.settle`). `run_onGrid` reads off it how often requests are tried.
-/

namespace MeshTelemetry.RequestSchedule

/-- How often a request has been tried. -/
def State.tried (s : State) : Nat :=
  s.requestsSent + s.sendFailures

/-- What the loop does adds an attempt for every tick. -/
theorem tried_settle (s : State) : (settle s).1.tried = s.tried + s.dueTicks.length := by
  rw [fst_settle]
  unfold State.tried
  cases s.closed <;> simp <;> omega

theorem Changes.tried_eq {s next : State} {e : Step} {reply : Reply}
    (change : Changes s e next reply) : next.tried = s.tried := by
  unfold State.tried
  rw [change.counters.1, change.counters.2]

/-! ## The invariant -/

/-- A schedule started at some time whose ticker is set to a point of its grid, and the ticks that it
has handled. -/
structure OnGrid (origin : Nat) (period : Interval) (ticker : Ticker) (point : Nat) (s : State)
    (ticks : List Tick) : Prop where
  running : s.loop = .running ticker
  going : s.stopped = false
  known : s.period = some period
  period_eq : ticker.period = period.nanos
  due_eq : ticker.due = origin + point * period.nanos
  begun : origin ≤ s.now
  near : ticker.due ≤ s.now + period.nanos
  used : ∀ tick ∈ ticks, ∃ i < point, tick.due = origin + i * period.nanos
  apart : ticks.Pairwise fun a b => a.due < b.due
  counted : s.tried = ticks.length
  few : ticks.length ≤ point
  all : (∀ tick ∈ ticks, tick.InTime) → ticks.length = point

section

variable {origin point : Nat} {period : Interval} {ticker : Ticker} {s : State} {ticks : List Tick}

theorem OnGrid.apply (grid : OnGrid origin period ticker point s ticks) {e : Step}
    (kept : e ≠ .stop) : OnGrid origin period ticker point (apply s e).1 ticks := by
  have change := apply_changes s e
  obtain ⟨loop, known⟩ := change.loop_eq (by rw [grid.known]; rfl)
  have going := change.stopped_eq
  rw [grid.going, Bool.false_or, decide_eq_false kept] at going
  have later : s.now ≤ (RequestSchedule.apply s e).1.now := by
    rw [change.now]
    exact Nat.le_add_right ..
  exact
    { running := loop.trans grid.running
      going
      known := known.trans grid.known
      period_eq := grid.period_eq
      due_eq := grid.due_eq
      begun := Nat.le_trans grid.begun later
      near := Nat.le_trans grid.near (Nat.add_le_add_right later period.nanos)
      used := grid.used
      apart := grid.apart
      counted := change.tried_eq.trans grid.counted
      few := grid.few
      all := grid.all }

theorem OnGrid.dueTicks (grid : OnGrid origin period ticker point s ticks) :
    s.dueTicks = ticker.ticks s.now := by
  unfold State.dueTicks
  rw [grid.running, grid.going]
  rfl

/-- A tick that is due now belongs to a point of the grid that no earlier tick had. -/
theorem OnGrid.due_of_mem (grid : OnGrid origin period ticker point s ticks) {tick : Tick}
    (mem : tick ∈ s.dueTicks) :
    ∃ i, point ≤ i ∧ i < point + ticker.reached s.now ∧ tick.due = origin + i * period.nanos := by
  rw [grid.dueTicks] at mem
  obtain ⟨-, i, inside, due⟩ := Ticker.mem_ticks mem
  refine ⟨point + i, Nat.le_add_right _ _, Nat.add_lt_add_left inside _, ?_⟩
  rw [due, grid.due_eq, grid.period_eq, Nat.add_mul, Nat.add_assoc]

/-- The loop handles the ticks that are due and moves on by as many points as have been reached. -/
theorem OnGrid.settle (grid : OnGrid origin period ticker point s ticks) :
    OnGrid origin period (ticker.run s.now).2 (point + ticker.reached s.now) (settle s).1
      (ticks ++ s.dueTicks) where
  running := by
    rw [loop_settle, State.restingLoop, grid.running, grid.going]
    rfl
  going := (stopped_settle s).trans grid.going
  known := (period_settle s).trans grid.known
  period_eq := (Ticker.period_run ticker s.now).trans grid.period_eq
  due_eq := by rw [Ticker.due_run, grid.due_eq, grid.period_eq, Nat.add_mul, Nat.add_assoc]
  begun := by rw [now_settle]; exact grid.begun
  near := by
    have near := grid.near
    rw [← grid.period_eq] at near ⊢
    rw [now_settle]
    exact Ticker.due_run_le near
  used tick mem := by
    rcases List.mem_append.mp mem with old | new
    · obtain ⟨i, inside, due⟩ := grid.used tick old
      exact ⟨i, Nat.lt_add_right _ inside, due⟩
    · obtain ⟨i, -, inside, due⟩ := grid.due_of_mem new
      exact ⟨i, inside, due⟩
  apart := by
    rw [List.pairwise_append]
    refine ⟨grid.apart, ?_, fun a old b new => ?_⟩
    · rw [grid.dueTicks]
      exact Ticker.pairwise_ticks ticker s.now
    · obtain ⟨i, less, first⟩ := grid.used a old
      obtain ⟨j, le, -, second⟩ := grid.due_of_mem new
      have pos : 0 < period.nanos := grid.period_eq ▸ ticker.period_pos
      rw [first, second]
      exact Nat.add_lt_add_left (Nat.mul_lt_mul_of_pos_right (Nat.lt_of_lt_of_le less le) pos) origin
  counted := by rw [tried_settle, grid.counted, List.length_append]
  few := by
    rw [List.length_append, grid.dueTicks]
    exact Nat.add_le_add grid.few (Ticker.length_ticks_le ticker s.now).1
  all inTime := by
    rw [List.forall_mem_append, grid.dueTicks] at inTime
    rw [List.length_append, grid.dueTicks, grid.all inTime.1,
      Ticker.length_ticks_of_forall_inTime inTime.2]

/-- The point that a waiting schedule waits for is the first one behind now. -/
theorem OnGrid.point_eq (grid : OnGrid origin period ticker point s ticks)
    (ahead : s.now < ticker.due) : point = (s.now - origin) / period.nanos + 1 := by
  have pos : 0 < period.nanos := grid.period_eq ▸ ticker.period_pos
  have begun := grid.begun
  have near := grid.near
  rw [grid.due_eq] at ahead near
  cases point with
  | zero => omega
  | succ passed =>
    rw [Nat.succ_mul] at ahead near
    have exact : (s.now - origin) / period.nanos = passed :=
      Nat.div_eq_of_lt_le (by omega) (by rw [Nat.succ_mul]; omega)
    rw [exact]

end

/-! ## Along a run -/

/-- A schedule that has no period has tried nothing. -/
def Unstarted (h : History) : Prop :=
  h.state.period = none → h.state.loop = .notStarted ∧ h.ticks = [] ∧ h.state.tried = 0

theorem Unstarted.next {h : History} (fresh : Unstarted h) (e : Step) : Unstarted (h.next e) := by
  intro none
  rw [History.state_next, period_settle] at none
  have change := apply_changes h.state e
  obtain ⟨before, loop⟩ := change.unstarted none
  obtain ⟨notStarted, ticks, tried⟩ := fresh before
  rw [notStarted] at loop
  have idle : (RequestSchedule.apply h.state e).1.dueTicks = [] := by
    unfold State.dueTicks
    rw [loop]
  refine ⟨?_, ?_, ?_⟩
  · rw [History.state_next, loop_settle, State.restingLoop, loop]
  · rw [History.ticks_next, ticks, idle, List.append_nil]
  · rw [History.state_next, tried_settle, idle, change.tried_eq, tried, List.length_nil]

theorem unstarted_run (address destination : SocketAddress) (steps : List Step) :
    Unstarted (History.run address destination steps) :=
  History.foldl_preserves (P := Unstarted) (fun _ fresh => fresh.next _) fun _ => ⟨rfl, rfl, rfl⟩

/-- A start that is granted sets the ticker to the first point of the grid, which is now. -/
theorem OnGrid.granted {h : History} {period : Interval} (fresh : Unstarted h)
    (going : h.state.stopped = false)
    (started : (step h.state (.start period)).2.1 = .done) :
    ∃ ticker, OnGrid h.state.now period ticker 0 (RequestSchedule.apply h.state (.start period)).1
      h.ticks := by
  have change := apply_changes h.state (.start period)
  rw [← reply_step, started] at change
  obtain ⟨pos, none, changed⟩ := change.granted_of_done
  obtain ⟨-, ticks, tried⟩ := fresh none
  rw [changed, ticks]
  exact ⟨⟨h.state.now, period.nanos, pos⟩,
    { running := rfl
      going
      known := rfl
      period_eq := rfl
      due_eq := by rw [Nat.zero_mul, Nat.add_zero]
      begun := Nat.le_refl _
      near := Nat.le_add_right ..
      used := fun _ mem => nomatch mem
      apart := .nil
      counted := tried
      few := Nat.le_refl 0
      all := fun _ => rfl }⟩

/-- From a granted start on, and as long as no stop comes, the schedule waits for a point of its
grid. -/
theorem onGrid_run {address destination : SocketAddress} {earlier later : List Step} {period : Interval}
    (started :
      (step (History.run address destination earlier).state (.start period)).2.1 = .done)
    (going : .stop ∉ earlier ++ later) :
    let origin := (History.run address destination earlier).state.now
    let h := History.run address destination (earlier ++ .start period :: later)
    ∃ ticker point, OnGrid origin period ticker point h.state h.ticks ∧
      h.state.now < ticker.due := by
  intro origin h
  rw [List.mem_append, not_or] at going
  have unstopped : (History.run address destination earlier).state.stopped = false := by
    rw [History.stopped_run, decide_eq_false going.1]
  obtain ⟨first, granted⟩ := OnGrid.granted (unstarted_run address destination earlier) unstopped
    started
  have waiting : ∃ ticker point, OnGrid origin period ticker point h.state h.ticks := by
    simp only [h, History.run_append, List.foldl_cons]
    refine History.foldl_preserves (P := fun h =>
      ∃ ticker point, OnGrid origin period ticker point h.state h.ticks) ?_ ⟨_, _, granted.settle⟩
    rintro h e mem ⟨ticker, point, grid⟩
    have kept : e ≠ .stop := fun same => going.2 (same ▸ mem)
    exact ⟨_, _, (grid.apply kept).settle⟩
  obtain ⟨ticker, point, grid⟩ := waiting
  refine ⟨ticker, point, grid, ?_⟩
  have rest : h.state.dueTicks = [] := History.dueTicks_run ..
  rw [grid.dueTicks] at rest
  exact Ticker.ticks_eq_nil_iff.mp rest

/-- A jump of the clock adds an attempt for each tick that is handled behind it. -/
theorem OnGrid.tried_advance {origin point : Nat} {period : Interval} {ticker : Ticker} {h : History}
    (grid : OnGrid origin period ticker point h.state h.ticks) (millis : Nat) :
    (h.next (.advance millis)).state.tried =
      h.state.tried + (ticker.ticks (h.state.now + millis * Interval.millisecond)).length := by
  have jumped := grid.apply (e := .advance millis) (fun same => nomatch same)
  have ticks : (RequestSchedule.apply h.state (.advance millis)).1.dueTicks =
      ticker.ticks (h.state.now + millis * Interval.millisecond) := jumped.dueTicks
  have tried := tried_settle (RequestSchedule.apply h.state (.advance millis)).1
  rw [ticks] at tried
  exact tried

/-- From a granted start on, and as long as no stop comes, the schedule always waits for the first point
of its grid that lies ahead. Each attempt belongs to a point of its own, so there are no more attempts
than points that have been reached, and exactly as many if none was more than five milliseconds late. A
jump of the clock causes an attempt exactly if it reaches the point waited for, and never more attempts
than points fit into five milliseconds. -/
theorem run_onGrid {address destination : SocketAddress} {earlier later : List Step} {period : Interval}
    (started :
      (step (History.run address destination earlier).state (.start period)).2.1 = .done)
    (going : .stop ∉ earlier ++ later) :
    let origin := (History.run address destination earlier).state.now
    let h := History.run address destination (earlier ++ .start period :: later)
    (∃ ticker point, h.state.loop = .running ticker ∧ 1 ≤ point ∧
      ticker.due = origin + point * period.nanos ∧
      h.state.now < ticker.due ∧ ticker.due ≤ h.state.now + period.nanos ∧
      ∀ millis,
        let later := h.state.now + millis * Interval.millisecond
        let after := (h.next (.advance millis)).state
        (h.state.tried < after.tried ↔ ticker.due ≤ later) ∧
        after.tried ≤ h.state.tried + (5 * Interval.millisecond / period.nanos + 1) ∧
        (5 * Interval.millisecond < period.nanos → ticker.due ≤ later →
          after.tried = h.state.tried + 1)) ∧
    (∀ tick ∈ h.ticks, ∃ point, tick.due = origin + point * period.nanos) ∧
    h.ticks.Pairwise (fun a b => a.due < b.due) ∧
    h.state.tried = h.ticks.length ∧
    h.state.tried ≤ (h.state.now - origin) / period.nanos + 1 ∧
    ((∀ tick ∈ h.ticks, tick.handled ≤ tick.due + 5 * Interval.millisecond) →
      h.state.tried = (h.state.now - origin) / period.nanos + 1) := by
  intro origin h
  obtain ⟨ticker, point, grid, ahead⟩ := onGrid_run started going
  have passed := grid.point_eq ahead
  have behind : 1 ≤ point := passed ▸ Nat.le_add_left 1 _
  refine ⟨⟨ticker, point, grid.running, behind, grid.due_eq, ahead, grid.near, ?_⟩, ?_, grid.apart,
    grid.counted, ?_, ?_⟩
  · intro millis later after
    have tried : after.tried = h.state.tried + (ticker.ticks later).length :=
      grid.tried_advance millis
    have few := (Ticker.length_ticks_le ticker later).2
    rw [grid.period_eq] at few
    have some_tick : 0 < (ticker.ticks later).length ↔ ticker.due ≤ later := by
      rw [List.length_pos_iff, ne_eq, Ticker.ticks_eq_nil_iff, Nat.not_lt]
    refine ⟨?_, ?_, fun long reached => ?_⟩
    · rw [← some_tick]
      omega
    · rw [tried]
      exact Nat.add_le_add_left few _
    · have one : Ticker.grace / period.nanos = 0 := Nat.div_eq_of_lt long
      have := some_tick.mpr reached
      omega
  · intro tick mem
    obtain ⟨i, -, due⟩ := grid.used tick mem
    exact ⟨i, due⟩
  · rw [grid.counted, ← passed]
    exact grid.few
  · intro inTime
    rw [grid.counted, ← passed]
    exact grid.all inTime

/-- A schedule of two and a half milliseconds that is exactly five milliseconds late catches up. -/
theorem run_onGrid_catchingUp :
    let host : SocketAddress := .v4 ⟨127, 0, 0, 1⟩ 1001
    let period : Interval := ⟨2500000⟩
    let earlier := [Step.advance 7, .start ⟨0⟩]
    let later := [Step.advance 3, .advance 7, .close]
    let h := History.run host host (earlier ++ .start period :: later)
    (step (History.run host host earlier).state (.start period)).2.1 = .done ∧
      .stop ∉ earlier ++ later ∧
      h.ticks = [⟨7000000, 7000000⟩, ⟨9500000, 10000000⟩, ⟨12000000, 17000000⟩,
        ⟨14500000, 17000000⟩, ⟨17000000, 17000000⟩] ∧
      h.state.tried = 5 := by
  intro host period earlier later h
  have started : (step (History.run host host earlier).state (.start period)).2.1 = .done := rfl
  have going : .stop ∉ earlier ++ later := by decide
  have ⟨ticks, now⟩ :
      h.ticks = [⟨7000000, 7000000⟩, ⟨9500000, 10000000⟩, ⟨12000000, 17000000⟩,
        ⟨14500000, 17000000⟩, ⟨17000000, 17000000⟩] ∧ h.state.now = 17000000 := by
    simp [h, period, earlier, later, History.run, History.initial, History.ticks_next,
      History.state_next, fst_settle, State.dueTicks, State.restingLoop, apply, start, State.initial,
      Ticker.ticks, Ticker.run, Ticker.next, Ticker.grace, Interval.millisecond]
  have origin : (History.run host host earlier).state.now = 7000000 := by
    simp [earlier, History.run, History.initial, History.state_next, fst_settle, apply, start,
      State.initial, Interval.millisecond]
  have inTime : ∀ tick ∈ h.ticks, tick.handled ≤ tick.due + 5 * Interval.millisecond := by
    rw [ticks]
    decide
  have tried : h.state.tried =
      (h.state.now - (History.run host host earlier).state.now) / period.nanos + 1 :=
    (run_onGrid started going).2.2.2.2.2 inTime
  rw [now, origin] at tried
  exact ⟨started, going, ticks, tried.trans (by decide)⟩

end MeshTelemetry.RequestSchedule
