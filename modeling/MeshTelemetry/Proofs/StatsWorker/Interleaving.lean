import Mathlib.Data.List.DropRight
import Mathlib.Data.List.Induction
import MeshTelemetry.Proofs.GlobalStats.Sum
import MeshTelemetry.Proofs.Pipeline.Forwarding
import MeshTelemetry.Proofs.Ticker
import MeshTelemetry.StatsWorker

/-!
# The worker beside the pipeline

The pipeline writes the registry, the worker reads it, and both call the sink. `Shared.next` is one
step of either. The clock and the stop reach the worker apart from its turns, so that datagrams may
be handled between the jump of the clock that makes a tick due and the turn at which the tick is
handled. A turn is one step: the worker looks at the registry once and makes all of its calls.

`moments` lists the steps of a run, each with the steps before it, and `ticks` those of them at which
a tick is handled. Both speak of the steps alone: a tick is a turn in a later period than the last one,
with no stop before it. `Paced` is the invariant that ties the ticker of the worker to them, and
`tracked_run` says with it where a run leads and what the sink gets to see.

The worker never reaches back. Taking it away commutes with every step (`withoutWorker_next`), so that
the pipeline runs the same without it.
-/

namespace MeshTelemetry

/-- A call of the sink that writes aggregates. -/
def Write.isAggregate : Write → Bool
  | .node .. => false
  | _ => true

namespace StatsWorker

/-- The calls of the sink among some effects. -/
def writesOf (effects : List Effect) : List Write :=
  effects.filterMap fun
    | .write w => some w
    | .notice _ => none

/-! ## Steps -/

/-- One step of the pipeline or the worker, or something that happens to the worker. -/
inductive Step
  /-- The pipeline handles a datagram, at a time in seconds. -/
  | handle (now : Int) (d : Datagram)
  /-- The clock of the worker moves on by some milliseconds. -/
  | elapse (millis : Nat)
  /-- The worker is told to stop. -/
  | stop
  /-- The worker has its turn, and goes on until it waits or has ended. -/
  | wake
deriving DecidableEq

/-- The pipeline and the worker, if there is one, with the calls that both have made of the sink. -/
structure Shared where
  pipeline : Pipeline.State
  worker : Option State
  calls : List Write

/-- A worker that starts at some time beside a pipeline. -/
def Shared.started (p : Pipeline.State) (start : Nat) : Shared :=
  ⟨p, some (.initial start), []⟩

/-- A turn of the worker. -/
def Shared.turn (s : Shared) (w : State) : Shared :=
  let (next, effects) := settle s.pipeline.registry w
  { s with worker := some next, calls := s.calls ++ writesOf effects }

def Shared.next (s : Shared) : Step → Shared
  | .handle now d =>
    let (next, effects) := Pipeline.handle true now s.pipeline d
    { s with pipeline := next, calls := s.calls ++ Pipeline.writesOf effects }
  | .elapse millis =>
    { s with worker := s.worker.map fun w => { w with now := w.now + millis * Interval.millisecond } }
  | .stop => { s with worker := s.worker.map fun w => { w with stopped := true } }
  | .wake => s.worker.elim s s.turn

/-- Take steps one after the other. -/
def Shared.run (s : Shared) (steps : List Step) : Shared :=
  steps.foldl Shared.next s

/-- The counters of both. -/
def Shared.counters (s : Shared) : Counters :=
  { s.pipeline.counters with globalStatsTicks := s.worker.elim 0 (·.ticks) }

/-- The pipeline alone, with its own calls of the sink. -/
def Shared.withoutWorker (s : Shared) : Shared :=
  ⟨s.pipeline, none, s.calls.filter (!·.isAggregate)⟩

theorem Shared.run_append (s : Shared) (xs ys : List Step) :
    s.run (xs ++ ys) = (s.run xs).run ys :=
  List.foldl_append

section

variable {s : Shared} {w : State}

/-- A worker that waits for its clock has its turn as soon as the clock has moved on. -/
theorem Shared.run_elapse_wake (beside : s.worker = some w) (millis : Nat) :
    s.run [.elapse millis, .wake] =
      { s with
        worker := some (advance s.pipeline.registry w millis).1
        calls := s.calls ++ writesOf (advance s.pipeline.registry w millis).2 } := by
  simp only [run, List.foldl_cons, List.foldl_nil, next, beside, Option.map_some, Option.elim_some]
  rfl

theorem Shared.run_stop_wake (beside : s.worker = some w) :
    s.run [.stop, .wake] =
      { s with
        worker := some (StatsWorker.stop s.pipeline.registry w).1
        calls := s.calls ++ writesOf (StatsWorker.stop s.pipeline.registry w).2 } := by
  simp only [run, List.foldl_cons, List.foldl_nil, next, beside, Option.map_some, Option.elim_some]
  rfl

end

/-! ## What steps say by themselves -/

/-- The datagrams that some steps handle, each with its time. -/
def handled (steps : List Step) : List (Int × Datagram) :=
  steps.filterMap fun
    | .handle now d => some (now, d)
    | _ => none

/-- How far a step moves the clock, in nanoseconds. -/
def Step.nanos : Step → Nat
  | .elapse millis => millis * Interval.millisecond
  | _ => 0

/-- The nanoseconds that pass in some steps. -/
def elapsed (steps : List Step) : Nat :=
  (steps.map Step.nanos).sum

/-- How many whole periods had passed at the last turn of the worker; none before its first. -/
def periodsSeen (steps : List Step) : Nat :=
  elapsed (steps.rdropWhile (· ≠ .wake)) / period.nanos

/-- A step of a run with the steps before it. -/
structure Moment where
  before : List Step
  step : Step

/-- The moments of a run behind some earlier steps. -/
def momentsFrom (before : List Step) : List Step → List Moment
  | [] => []
  | e :: steps => ⟨before, e⟩ :: momentsFrom (before ++ [e]) steps

/-- The moments of a run. -/
def moments (steps : List Step) : List Moment :=
  momentsFrom [] steps

/-- A moment at which the worker handles a tick: it has its turn, in a later period than when it had
the last one, and has not been told to stop. -/
def Moment.isTick (m : Moment) : Bool :=
  m.step = .wake && .stop ∉ m.before && periodsSeen m.before < elapsed m.before / period.nanos

/-- The moments of a run at which the worker handles a tick. -/
def ticks (steps : List Step) : List Moment :=
  (moments steps).filter Moment.isTick

section

variable (p : Pipeline.State) (start : Nat)

/-- The pipeline behind some steps. -/
def pipelineBehind (steps : List Step) : Pipeline.State :=
  (Pipeline.handleAll true p (handled steps)).1

/-- The nodes known at a moment. -/
def Moment.nodes (m : Moment) : List Node :=
  (pipelineBehind p m.before).registry.snapshot

/-- What the clock shows at a moment. -/
def Moment.time (m : Moment) : Timestamp :=
  ⟨(start + elapsed m.before : Nat), 0⟩

/-- The aggregates over the nodes known at a moment. -/
def Moment.stats (m : Moment) : GlobalStats :=
  .ofNodes (m.nodes p)

/-- The calls of a tick: the point of the aggregates over the nodes known at that moment, then their
counts of firmware releases and of models. -/
def Moment.triple (m : Moment) : List Write :=
  [.point "global" [] (m.stats p).fields (m.time start), .counts "firmware" (m.stats p).firmwares,
    .counts "model" (m.stats p).models]

/-- The calls of the sink at a moment. -/
def Moment.calls (m : Moment) : List Write :=
  match m.step with
  | .handle now d =>
    Pipeline.writesOf (Pipeline.handle true now (pipelineBehind p m.before) d).2
  | _ => if m.isTick then m.triple p start else []

end

/-! ### One step more -/

section

variable (steps : List Step)

theorem momentsFrom_append (before xs ys : List Step) :
    momentsFrom before (xs ++ ys) = momentsFrom before xs ++ momentsFrom (before ++ xs) ys := by
  induction xs generalizing before with
  | nil => simp [momentsFrom]
  | cons e xs ih => simp [momentsFrom, ih]

theorem moments_concat (e : Step) : moments (steps ++ [e]) = moments steps ++ [⟨steps, e⟩] :=
  momentsFrom_append [] steps [e]

theorem ticks_concat (e : Step) :
    ticks (steps ++ [e]) = ticks steps ++ if Moment.isTick ⟨steps, e⟩ then [⟨steps, e⟩] else [] := by
  unfold ticks
  rw [moments_concat, List.filter_append, List.filter_singleton]
  cases Moment.isTick ⟨steps, e⟩ <;> rfl

variable {steps} in
theorem ticks_concat_of_quiet {e : Step} (quiet : Moment.isTick ⟨steps, e⟩ = false) :
    ticks (steps ++ [e]) = ticks steps := by
  rw [ticks_concat, quiet]
  exact List.append_nil _

theorem elapsed_concat (e : Step) : elapsed (steps ++ [e]) = elapsed steps + e.nanos := by
  simp [elapsed]

theorem periodsSeen_wake : periodsSeen (steps ++ [.wake]) = elapsed steps / period.nanos := by
  unfold periodsSeen
  rw [List.rdropWhile_concat_neg _ _ _ (by decide), elapsed_concat]
  rfl

variable {steps} in
theorem periodsSeen_of_ne_wake {e : Step} (other : e ≠ .wake) :
    periodsSeen (steps ++ [e]) = periodsSeen steps := by
  unfold periodsSeen
  rw [List.rdropWhile_concat_pos _ _ _ (by simpa using other)]

theorem pipelineBehind_concat (p : Pipeline.State) (e : Step) :
    pipelineBehind p (steps ++ [e]) =
      match e with
      | .handle now d => (Pipeline.handle true now (pipelineBehind p steps) d).1
      | _ => pipelineBehind p steps := by
  unfold pipelineBehind handled
  rw [List.filterMap_append, Pipeline.handleAll_append]
  cases e <;> rfl

end

/-! ### Which moments are ticks, and how many -/

theorem isTick_wake {steps : List Step} :
    Moment.isTick ⟨steps, .wake⟩ = true ↔
      .stop ∉ steps ∧ periodsSeen steps < elapsed steps / period.nanos := by
  simp [Moment.isTick]

theorem isTick_of_ne_wake {steps : List Step} {e : Step} (other : e ≠ .wake) :
    Moment.isTick ⟨steps, e⟩ = false := by
  simp [Moment.isTick, other]

/-- The periods seen have passed. -/
theorem periodsSeen_le (steps : List Step) : periodsSeen steps ≤ elapsed steps / period.nanos := by
  induction steps using List.reverseRecOn with
  | nil => exact Nat.le_refl 0
  | append_singleton steps e ih =>
    rw [elapsed_concat]
    have later : elapsed steps / period.nanos ≤ (elapsed steps + e.nanos) / period.nanos :=
      Nat.div_le_div_right (Nat.le_add_right ..)
    by_cases turn : e = .wake
    · subst turn
      rw [periodsSeen_wake]
      exact later
    · rw [periodsSeen_of_ne_wake turn]
      exact Nat.le_trans ih later

/-- Every tick is handled in a period of its own. -/
theorem length_ticks_le (steps : List Step) : (ticks steps).length ≤ periodsSeen steps := by
  induction steps using List.reverseRecOn with
  | nil => exact Nat.le_refl 0
  | append_singleton steps e ih =>
    by_cases turn : e = .wake
    · subst turn
      rw [periodsSeen_wake]
      cases tick : Moment.isTick ⟨steps, .wake⟩ with
      | true =>
        have later := (isTick_wake.mp tick).2
        rw [ticks_concat, if_pos tick, List.length_append]
        exact Nat.lt_of_le_of_lt ih later
      | false =>
        rw [ticks_concat_of_quiet tick]
        exact Nat.le_trans ih (periodsSeen_le steps)
    · rw [periodsSeen_of_ne_wake turn, ticks_concat_of_quiet (isTick_of_ne_wake turn)]
      exact ih

/-- Behind a stop there is no tick. -/
theorem ticks_behind_stop (earlier later : List Step) :
    ticks (earlier ++ .stop :: later) = ticks earlier := by
  induction later using List.reverseRecOn with
  | nil => exact ticks_concat_of_quiet (isTick_of_ne_wake (by decide))
  | append_singleton later e ih =>
    have quiet : Moment.isTick ⟨earlier ++ .stop :: later, e⟩ = false := by simp [Moment.isTick]
    rw [← List.cons_append, ← List.append_assoc, ticks_concat_of_quiet quiet, ih]

/-! ## A turn of the worker -/

theorem settle_of_running {w : State} {t : Ticker} (running : w.ticker = some t)
    (going : w.stopped = false) (r : Registry) :
    settle r w =
      ({ w with ticker := some (t.run w.now).2, ticks := w.ticks + (t.run w.now).1 },
        (List.replicate (t.run w.now).1 (save r w.moment)).flatten) := by
  unfold settle
  simp only [running, going, Bool.false_eq_true, if_false]

theorem settle_of_ended {w : State} (ended : w.ticker = none) (r : Registry) :
    settle r w = (w, []) := by
  unfold settle
  simp only [ended]

/-- A worker that has been told to stop ends, if it has not ended before. -/
theorem settle_of_stopped {w : State} (stopped : w.stopped = true) (r : Registry) :
    (settle r w).1 = { w with ticker := none } ∧ writesOf (settle r w).2 = [] := by
  cases running : w.ticker with
  | none =>
    rw [settle_of_ended running, ← running]
    exact ⟨rfl, rfl⟩
  | some t =>
    have ends : settle r w = ({ w with ticker := none }, [.notice .stopping]) := by
      unfold settle
      simp only [running, stopped, if_true]
    rw [ends]
    exact ⟨rfl, rfl⟩

/-- A worker behind some steps, with its ticker set to the end of the first period that it has not
seen. -/
structure Paced (start : Nat) (steps : List Step) (w : State) : Prop where
  now_eq : w.now = start + elapsed steps
  stopped_iff : w.stopped = true ↔ .stop ∈ steps
  ticks_eq : w.ticks = (ticks steps).length
  period_eq : ∀ t, w.ticker = some t → t.period = period.nanos
  due_eq : ∀ t, w.ticker = some t → t.due = start + (periodsSeen steps + 1) * period.nanos
  stopped_of_ended : w.ticker = none → w.stopped = true

theorem paced_initial (start : Nat) : Paced start [] (.initial start) where
  now_eq := rfl
  stopped_iff := by simp [State.initial]
  ticks_eq := rfl
  period_eq t running := by cases running; rfl
  due_eq t running := by cases running; rfl
  stopped_of_ended ended := by cases ended

section

variable {p : Pipeline.State} {start : Nat} {steps : List Step} {w : State}

/-- Between its turns a worker only takes notice of its clock and of a stop. -/
theorem Paced.concat (paced : Paced start steps w) {e : Step} (other : e ≠ .wake) :
    Paced start (steps ++ [e])
      { w with now := w.now + e.nanos, stopped := w.stopped || e = .stop } where
  now_eq := by
    rw [elapsed_concat, ← Nat.add_assoc, ← paced.now_eq]
  stopped_iff := by
    rw [Bool.or_eq_true, paced.stopped_iff, decide_eq_true_eq, List.mem_append, List.mem_singleton,
      eq_comm (a := e)]
  ticks_eq := by
    rw [ticks_concat_of_quiet (isTick_of_ne_wake other)]
    exact paced.ticks_eq
  period_eq := paced.period_eq
  due_eq t running := by
    rw [periodsSeen_of_ne_wake other]
    exact paced.due_eq t running
  stopped_of_ended ended := by
    rw [paced.stopped_of_ended ended, Bool.true_or]

/-- A tick is due if a period has passed that has not been seen. -/
theorem Paced.due_le_iff (paced : Paced start steps w) {t : Ticker} (running : w.ticker = some t) :
    t.due ≤ w.now ↔ periodsSeen steps < elapsed steps / period.nanos := by
  rw [paced.due_eq t running, paced.now_eq, Nat.add_le_add_iff_left, Nat.lt_iff_add_one_le,
    Nat.le_div_iff_mul_le (by decide)]

/-- Behind its turn, the ticker of a worker is set to the end of the period that has begun. -/
theorem Paced.due_run (paced : Paced start steps w) {t : Ticker} (running : w.ticker = some t) :
    (t.run w.now).2.due = start + (elapsed steps / period.nanos + 1) * period.nanos := by
  have mesh := paced.period_eq t running
  have due := paced.due_eq t running
  have now := paced.now_eq
  rw [Ticker.due_run]
  by_cases arrived : t.due ≤ w.now
  · rw [Ticker.reached_of_le arrived, mesh]
    -- With the length of a period spelled out, this is linear.
    simp only [period, Interval.ofSeconds, Interval.second] at due ⊢
    omega
  · have seen : periodsSeen steps = elapsed steps / period.nanos :=
      Nat.le_antisymm (periodsSeen_le steps)
        (Nat.not_lt.mp fun less => arrived ((paced.due_le_iff running).mpr less))
    rw [Ticker.reached_of_lt (Nat.not_le.mp arrived), due, seen, Nat.zero_mul, Nat.add_zero]

/-- A worker that has been told to stop handles no tick any more. -/
theorem Paced.isTick_of_stopped (paced : Paced start steps w) (stopped : w.stopped = true) :
    Moment.isTick ⟨steps, .wake⟩ = false :=
  Bool.eq_false_iff.mpr fun tick => (isTick_wake.mp tick).1 (paced.stopped_iff.mp stopped)

/-- Any other handles one tick at most. -/
theorem Paced.fst_run (paced : Paced start steps w) {t : Ticker} (running : w.ticker = some t)
    (going : w.stopped = false) :
    (t.run w.now).1 = if Moment.isTick ⟨steps, .wake⟩ then 1 else 0 := by
  have untold : .stop ∉ steps := fun told => by
    cases going.symm.trans (paced.stopped_iff.mpr told)
  have long : Ticker.grace < t.period := by
    rw [paced.period_eq t running]
    decide
  rw [Ticker.fst_run_of_grace_lt long]
  refine if_congr ?_ rfl rfl
  rw [isTick_wake, paced.due_le_iff running]
  exact (and_iff_right untold).symm

/-- A turn of the worker handles the tick of its moment, if there is one. -/
theorem Paced.turn (paced : Paced start steps w) (p : Pipeline.State) :
    let m : Moment := ⟨steps, .wake⟩
    let r := (pipelineBehind p steps).registry
    Paced start (steps ++ [.wake]) (settle r w).1 ∧
      writesOf (settle r w).2 = if m.isTick then m.triple p start else [] := by
  intro m r
  have now_eq : w.now = start + elapsed (steps ++ [.wake]) := by
    rw [elapsed_concat]
    exact paced.now_eq
  have stopped_iff : w.stopped = true ↔ .stop ∈ steps ++ [.wake] := by simp [paced.stopped_iff]
  have ticks_eq : w.ticks + (if m.isTick then 1 else 0) = (ticks (steps ++ [.wake])).length := by
    rw [ticks_concat, List.length_append, paced.ticks_eq]
    cases m.isTick <;> rfl
  cases stopped : w.stopped with
  | true =>
    have none : m.isTick = false := paced.isTick_of_stopped stopped
    obtain ⟨state, silent⟩ := settle_of_stopped stopped r
    rw [none] at ticks_eq ⊢
    rw [state, silent]
    refine ⟨⟨now_eq, stopped_iff, ticks_eq, fun t running => ?_, fun t running => ?_,
      fun _ => stopped⟩, rfl⟩
    · cases running
    · cases running
  | false =>
    obtain ⟨t, running⟩ : ∃ t, w.ticker = some t := by
      refine Option.ne_none_iff_exists'.mp fun ended => ?_
      cases stopped.symm.trans (paced.stopped_of_ended ended)
    have count : (t.run w.now).1 = if m.isTick then 1 else 0 := paced.fst_run running stopped
    have time : w.moment = m.time start := by
      unfold State.moment Moment.time
      rw [paced.now_eq]
    rw [settle_of_running running stopped, count, time]
    refine ⟨⟨now_eq, stopped_iff, ticks_eq, fun last now => ?_, fun last now => ?_,
      fun ended => ?_⟩, ?_⟩
    · cases now
      exact (Ticker.period_run t w.now).trans (paced.period_eq t running)
    · cases now
      rw [periodsSeen_wake]
      exact paced.due_run running
    · cases ended
    · cases m.isTick <;> rfl

end

/-! ## A run of both -/

/-- What the pipeline and the worker have come to, started together, behind some steps. -/
structure Tracked (p : Pipeline.State) (start : Nat) (steps : List Step) (s : Shared) : Prop where
  pipeline_eq : s.pipeline = pipelineBehind p steps
  calls_eq : s.calls = (moments steps).flatMap (·.calls p start)
  paced : ∃ w, s.worker = some w ∧ Paced start steps w

section

variable {p : Pipeline.State} {start : Nat} {steps : List Step} {s : Shared}

theorem calls_concat (e : Step) :
    (moments (steps ++ [e])).flatMap (·.calls p start) =
      (moments steps).flatMap (·.calls p start) ++ Moment.calls p start ⟨steps, e⟩ := by
  rw [moments_concat, List.flatMap_append, List.flatMap_singleton]

theorem Tracked.next (tracked : Tracked p start steps s) (e : Step) :
    Tracked p start (steps ++ [e]) (s.next e) := by
  obtain ⟨w, beside, paced⟩ := tracked.paced
  have pipeline := pipelineBehind_concat steps p e
  cases e with
  | handle now d =>
    have kept := paced.concat (e := .handle now d) (by simp)
    refine ⟨?_, ?_, w, beside, ?_⟩
    · rw [pipeline, ← tracked.pipeline_eq]
      rfl
    · rw [calls_concat, ← tracked.calls_eq, Moment.calls, ← tracked.pipeline_eq]
      rfl
    · simpa [Step.nanos] using kept
  | elapse millis =>
    have kept := paced.concat (e := .elapse millis) (by simp)
    refine ⟨tracked.pipeline_eq.trans pipeline.symm, ?_, _, congrArg (Option.map _) beside, ?_⟩
    · rw [calls_concat, ← tracked.calls_eq]
      exact (List.append_nil _).symm
    · simpa [Step.nanos] using kept
  | stop =>
    have kept := paced.concat (e := .stop) (by simp)
    refine ⟨tracked.pipeline_eq.trans pipeline.symm, ?_, _, congrArg (Option.map _) beside, ?_⟩
    · rw [calls_concat, ← tracked.calls_eq]
      exact (List.append_nil _).symm
    · simpa [Step.nanos] using kept
  | wake =>
    obtain ⟨kept, written⟩ := paced.turn p
    have turn : s.next .wake = s.turn w := by
      simp only [Shared.next, beside, Option.elim_some]
    rw [← tracked.pipeline_eq] at kept written
    rw [turn]
    refine ⟨tracked.pipeline_eq.trans pipeline.symm, ?_, _, rfl, kept⟩
    rw [calls_concat, ← tracked.calls_eq]
    exact congrArg (s.calls ++ ·) written

theorem tracked_run (p : Pipeline.State) (start : Nat) (steps : List Step) :
    Tracked p start steps ((Shared.started p start).run steps) := by
  induction steps using List.reverseRecOn with
  | nil => exact ⟨rfl, rfl, _, rfl, paced_initial start⟩
  | append_singleton steps e ih =>
    rw [Shared.run_append]
    exact ih.next e

end

/-! ## The calls of each -/

theorem filter_writesOf_handle (now : Int) (s : Pipeline.State) (d : Datagram) :
    (Pipeline.writesOf (Pipeline.handle true now s d).2).filter (!·.isAggregate) =
      Pipeline.writesOf (Pipeline.handle true now s d).2 := by
  rcases Pipeline.handle_cases true now s d with
    ⟨e, -, -, step⟩ | ⟨r, -, -, step⟩ | ⟨id, r, -, -, step⟩
  · rw [step]
    rfl
  · rw [step]
    rfl
  · have calls := Pipeline.writesOf_storedEffects true now s d.source id r
    rw [step]
    change (Pipeline.writesOf (Pipeline.storedEffects true now s d.source id r)).filter _ =
      Pipeline.writesOf (Pipeline.storedEffects true now s d.source id r)
    rw [calls, Pipeline.forward]
    split <;> rfl

/-- A worker in any state writes nothing but aggregates. -/
theorem isAggregate_of_mem_settle {r : Registry} {w : State} {x : Write}
    (mem : x ∈ writesOf (settle r w).2) : x.isAggregate = true := by
  have saved (time : Timestamp) (inside : x ∈ writesOf (save r time)) : x.isAggregate = true := by
    have aggregates : (writesOf (save r time)).all Write.isAggregate = true := rfl
    exact List.all_eq_true.mp aggregates x inside
  cases stopped : w.stopped with
  | true =>
    rw [(settle_of_stopped stopped r).2] at mem
    cases mem
  | false =>
    cases running : w.ticker with
    | none =>
      rw [settle_of_ended running] at mem
      cases mem
    | some t =>
      rw [settle_of_running running stopped] at mem
      obtain ⟨effect, inside, written⟩ := List.mem_filterMap.mp mem
      obtain ⟨one, copy, within⟩ := List.mem_flatten.mp inside
      cases List.eq_of_mem_replicate copy
      exact saved w.moment (List.mem_filterMap.mpr ⟨effect, within, written⟩)

/-- The worker makes the calls of its ticks, and the pipeline all others. -/
theorem Moment.filter_calls (p : Pipeline.State) (start : Nat) (m : Moment) :
    (m.calls p start).filter Write.isAggregate = if m.isTick then m.triple p start else [] := by
  obtain ⟨before, step⟩ := m
  cases step with
  | handle now d =>
    have only := filter_writesOf_handle now (pipelineBehind p before) d
    change (Pipeline.writesOf (Pipeline.handle true now (pipelineBehind p before) d).2).filter
      Write.isAggregate = []
    rw [← only, List.filter_filter]
    simp
  | _ =>
    simp only [Moment.calls]
    split <;> rfl

theorem flatMap_filter_calls (p : Pipeline.State) (start : Nat) (steps : List Step) :
    ((moments steps).flatMap (·.calls p start)).filter Write.isAggregate =
      (ticks steps).flatMap (·.triple p start) := by
  unfold ticks
  induction moments steps with
  | nil => rfl
  | cons m ms ih =>
    rw [List.flatMap_cons, List.filter_append, ih, m.filter_calls, List.filter_cons]
    split <;> simp

/-- A run without the worker is the run without what the worker does. -/
theorem Shared.withoutWorker_next (s : Shared) (e : Step) :
    (s.next e).withoutWorker = s.withoutWorker.next e := by
  cases e with
  | handle now d =>
    simp only [next, withoutWorker, List.filter_append, filter_writesOf_handle]
  | elapse millis => rfl
  | stop => rfl
  | wake =>
    cases beside : s.worker with
    | none => simp only [next, withoutWorker, beside, Option.elim_none]
    | some w =>
      have none : (writesOf (settle s.pipeline.registry w).2).filter (!·.isAggregate) = [] :=
        List.filter_eq_nil_iff.mpr fun x mem => by simp [isAggregate_of_mem_settle mem]
      simp only [next, turn, withoutWorker, beside, Option.elim_some, Option.elim_none,
        List.filter_append, none, List.append_nil]

theorem Shared.withoutWorker_run (s : Shared) (steps : List Step) :
    (s.run steps).withoutWorker = s.withoutWorker.run steps := by
  induction steps generalizing s with
  | nil => rfl
  | cons e steps ih =>
    exact (ih (s.next e)).trans (congrArg (Shared.run · steps) (s.withoutWorker_next e))

/-! ## Along a run -/

section

variable (p : Pipeline.State) (start : Nat) (steps : List Step)

/-- The calls of the worker in a run are those of its ticks. -/
theorem aggregates_run :
    ((Shared.started p start).run steps).calls.filter Write.isAggregate =
      (ticks steps).flatMap (·.triple p start) := by
  rw [(tracked_run p start steps).calls_eq, flatMap_filter_calls]

theorem globalStatsTicks_run :
    ((Shared.started p start).run steps).counters.globalStatsTicks = (ticks steps).length := by
  obtain ⟨-, -, w, beside, paced⟩ := tracked_run p start steps
  rw [← paced.ticks_eq]
  exact congrArg (Option.elim · 0 (·.ticks)) beside

/-- The worker makes three calls for each tick that it counts. -/
theorem length_aggregates_run :
    (((Shared.started p start).run steps).calls.filter Write.isAggregate).length =
      3 * ((Shared.started p start).run steps).counters.globalStatsTicks := by
  rw [aggregates_run, globalStatsTicks_run, List.length_flatMap]
  simp [Moment.triple, Nat.mul_comm]

end

/-- What a tick hands over: the point says how many nodes and clients there are, and neither set of
counts exceeds the number of nodes. Below 2^32 nodes, all of it is exact. -/
theorem Moment.stats_say (p : Pipeline.State) (m : Moment) :
    let stats := m.stats p
    stats.nodes = .ofNat (m.nodes p).length ∧
    stats.firmwares.total ≤ (m.nodes p).length ∧
    stats.models.total ≤ (m.nodes p).length ∧
    ((m.nodes p).length < 18446744073709551616 →
      stats.firmwares.total ≤ stats.nodes.toNat ∧ stats.models.total ≤ stats.nodes.toNat) ∧
    ((m.nodes p).length < 4294967296 → GlobalStats.Describes (m.nodes p) stats) := by
  intro stats
  have nodes : stats.nodes = .ofNat (m.nodes p).length := by
    unfold stats Moment.stats
    rw [GlobalStats.ofNodes_eq]
  obtain ⟨firmwares, models⟩ := GlobalStats.totals_le (m.nodes p)
  refine ⟨nodes, firmwares, models, fun fits => ?_, GlobalStats.describes_ofNodes⟩
  rw [nodes, UInt64.toNat_ofNat_of_lt' fits]
  exact ⟨firmwares, models⟩

/-- Whatever the order in which datagrams are handled, the clock moves on, the worker has its turns and
is told to stop, the calls of the sink are those of the moments. The worker makes three calls for each
tick, all from the nodes that are known at that moment: a point with the number of nodes and the sums of
their clients, and two sets of counts, neither of which exceeds the number of nodes. There is no more
than one tick for each period that has passed since the start, and none behind a stop. Without the
worker the pipeline comes to the same state, with the same counters and calls of its own. -/
theorem run_interleaved (p : Pipeline.State) (start : Nat) (steps : List Step) :
    let ran := (Shared.started p start).run steps
    let alone := (Shared.started p start).withoutWorker.run steps
    let written := ran.calls.filter Write.isAggregate
    ran.calls = (moments steps).flatMap (·.calls p start) ∧
    written = (ticks steps).flatMap (·.triple p start) ∧
    (∀ m ∈ ticks steps,
      let stats := m.stats p
      -- The values of the point.
      (stats.fields.lookup "nodes" = some stats.nodes.toFloat ∧
        stats.fields.lookup "clients.total" = some stats.clients.toFloat ∧
        stats.fields.lookup "clients.wifi" = some stats.clientsWifi.toFloat ∧
        stats.fields.lookup "clients.wifi24" = some stats.clientsWifi24.toFloat ∧
        stats.fields.lookup "clients.wifi5" = some stats.clientsWifi5.toFloat) ∧
      stats.nodes = .ofNat (m.nodes p).length ∧
      stats.firmwares.total ≤ (m.nodes p).length ∧
      stats.models.total ≤ (m.nodes p).length ∧
      -- As long as their number can be counted in 64 bits.
      ((m.nodes p).length < 18446744073709551616 →
        stats.firmwares.total ≤ stats.nodes.toNat ∧ stats.models.total ≤ stats.nodes.toNat) ∧
      -- As long as every count fits 32 bits.
      ((m.nodes p).length < 4294967296 → GlobalStats.Describes (m.nodes p) stats)) ∧
    written.length = 3 * ran.counters.globalStatsTicks ∧
    (∃ w, ran.worker = some w ∧ w.now = start + elapsed steps ∧
      ran.counters.globalStatsTicks ≤ (w.now - start) / (60 * Interval.second) ∧
      (w.now < start + 60 * Interval.second → written = [])) ∧
    (∀ earlier later, steps = earlier ++ .stop :: later →
      written = ((Shared.started p start).run earlier).calls.filter Write.isAggregate) ∧
    alone.pipeline = ran.pipeline ∧
    alone.counters = { ran.counters with globalStatsTicks := 0 } ∧
    alone.calls = ran.calls.filter (!·.isAggregate) := by
  intro ran alone written
  obtain ⟨-, calls, w, beside, paced⟩ := tracked_run p start steps
  have wrote : written = (ticks steps).flatMap (·.triple p start) := aggregates_run p start steps
  have few : (ticks steps).length ≤ elapsed steps / (60 * Interval.second) :=
    Nat.le_trans (length_ticks_le steps) (periodsSeen_le steps)
  have same : alone = ran.withoutWorker := ((Shared.started p start).withoutWorker_run steps).symm
  refine ⟨calls, wrote, fun m _ => ⟨(m.stats p).lookup_fields, m.stats_say p⟩,
    length_aggregates_run p start steps, ⟨w, beside, paced.now_eq, ?_, fun first => ?_⟩, ?_, ?_, ?_,
    ?_⟩
  · have counted : ran.counters.globalStatsTicks = (ticks steps).length :=
      globalStatsTicks_run p start steps
    rw [counted, paced.now_eq, Nat.add_sub_cancel_left]
    exact few
  · rw [paced.now_eq, Nat.add_lt_add_iff_left] at first
    rw [Nat.div_eq_of_lt first, Nat.le_zero] at few
    rw [wrote, List.eq_nil_of_length_eq_zero few, List.flatMap_nil]
  · intro earlier later split
    subst split
    rw [wrote, ticks_behind_stop, aggregates_run]
  · rw [same]
    rfl
  · rw [same]
    rfl
  · rw [same]
    rfl

/-- A node that becomes known between the jump of the clock and the tick, and a second tick that does
not come because of a stop. -/
theorem run_interleaved_between :
    let d : Datagram :=
      ⟨.v4 ⟨203, 0, 113, 5⟩ 1234, Deflate.storedStream [] (Text.utf8
        ("[\x7b\"id\":\"c0ffee000001\",\"hardware\":[\"A\",null]," ++
          "\"software\":\x7b\"firmware\":[null,\"1.0\"]\x7d\x7d,\x7b\"clients\":[5,3,2,1]\x7d,null]"))⟩
    let steps : List Step := [.elapse 60000, .handle 60 d, .wake, .elapse 60000, .stop, .wake]
    let m : Moment := ⟨steps.take 2, .wake⟩
    let ran := (Shared.started .initial 5).run steps
    let written := ran.calls.filter Write.isAggregate
    let stats := m.stats .initial
    ticks steps = [m] ∧
    written = [.point "global" [] stats.fields ⟨60000000005, 0⟩, .counts "firmware" [("1.0", 1)],
      .counts "model" [("A", 1)]] ∧
    stats = ⟨1, 5, 3, 2, 1, [("1.0", 1)], [("A", 1)]⟩ ∧
    (stats.fields.lookup "nodes" = some stats.nodes.toFloat ∧
      stats.fields.lookup "clients.total" = some stats.clients.toFloat ∧
      stats.fields.lookup "clients.wifi" = some stats.clientsWifi.toFloat ∧
      stats.fields.lookup "clients.wifi24" = some stats.clientsWifi24.toFloat ∧
      stats.fields.lookup "clients.wifi5" = some stats.clientsWifi5.toFloat) ∧
    written = ((Shared.started .initial 5).run (steps.take 4)).calls.filter Write.isAggregate ∧
    GlobalStats.Describes (m.nodes .initial) stats ∧
    stats.firmwares.total ≤ stats.nodes.toNat ∧ stats.models.total ≤ stats.nodes.toNat ∧
    ran.counters.globalStatsTicks = 1 := by
  intro d steps m ran written stats
  have stored : d.stored? = some (⟨"c0ffee000001", by decide⟩,
      ⟨some ⟨"c0ffee000001", none, some ⟨some "A", none⟩, some ⟨some ⟨none, some "1.0"⟩, []⟩, []⟩,
        some ⟨"", none, none, none, some ⟨5, 3, 2, 1⟩, []⟩, none⟩) :=
    Pipeline.stored?_storedStream _ (by decide +kernel) (by cbv) rfl
  have only : ticks steps = [m] := by
    simp [ticks, moments, momentsFrom, Moment.isTick, periodsSeen, elapsed, Step.nanos, period,
      Interval.ofSeconds, Interval.second, Interval.millisecond, List.rdropWhile, steps, m]
  obtain ⟨one, counted⟩ : (m.nodes .initial).length = 1 ∧
      stats = ⟨1, 5, 3, 2, 1, [("1.0", 1)], [("A", 1)]⟩ := by
    have known : pipelineBehind .initial m.before = (Pipeline.handle true 60 .initial d).1 := rfl
    simp only [stats]
    rw [Moment.stats, Moment.nodes, known, Pipeline.handle_of_stored stored]
    exact ⟨rfl, rfl⟩
  have few : (m.nodes .initial).length < 4294967296 := by
    rw [one]
    decide
  have fits : (m.nodes .initial).length < 18446744073709551616 := Nat.lt_trans few (by decide)
  obtain ⟨-, calls, ticked, length, -, behind, -⟩ := run_interleaved .initial 5 steps
  rw [only] at calls ticked
  obtain ⟨values, -, -, -, bounds, described⟩ := ticked m (List.mem_singleton_self m)
  have triple : written = m.triple .initial 5 := calls.trans (List.flatMap_singleton _ _)
  have three : 3 = 3 * ran.counters.globalStatsTicks :=
    (congrArg List.length triple).symm.trans length
  have time : m.time 5 = ⟨60000000005, 0⟩ := by
    simp [Moment.time, elapsed, Step.nanos, Interval.millisecond, m, steps]
  obtain ⟨firmwares, models⟩ := bounds fits
  refine ⟨only, ?_, counted, values, behind (steps.take 4) [.wake] rfl, described few, firmwares, models,
    by omega⟩
  rw [triple, Moment.triple, time]
  change [Write.point "global" [] stats.fields _, .counts "firmware" stats.firmwares,
    .counts "model" stats.models] = _
  rw [counted]

end StatsWorker

end MeshTelemetry
