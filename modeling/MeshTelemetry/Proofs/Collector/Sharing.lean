import MeshTelemetry.Collector
import MeshTelemetry.Proofs.Intake.Conservation
import MeshTelemetry.Proofs.StatsWorker.Interleaving

/-!
# A collector runs the worker beside the pipeline

`Shares` says that a collector with a sink comes from one state to another by steps of the pipeline and
of its worker, and that the calls of the sink on the way are theirs. All that a collector can be told
is of this kind (`shares_operate`), and so is every run of one (`exists_steps_run`): the order in which
the collector does things is one of the orders of `StatsWorker.Shared.run`. What holds along these
therefore holds of the collector, such as the count of its ticks (`length_aggregates_operateAll`).
-/

namespace MeshTelemetry

open StatsWorker (Shared)

/-- What receiver and parser do until both wait is to handle datagrams. -/
theorem Intake.exists_steps_settle (now : Int) (s : Intake) :
    ∃ steps : List StatsWorker.Step, ∀ worker calls,
      Shared.run ⟨s.pipeline, worker, calls⟩ steps =
        ⟨(s.settle true now).1.pipeline, worker,
          calls ++ Pipeline.writesOf (parserEffects (s.settle true now).2)⟩ := by
  fun_induction Intake.settle true now s with
  | case1 s next effects move smaller last more tail ih =>
    obtain ⟨steps, runs⟩ := ih
    rw [tail] at runs
    obtain ⟨⟨receiver, notices⟩, -, done⟩ := Option.map_eq_some_iff.mp move
    cases done
    refine ⟨steps, fun worker calls => ?_⟩
    rw [parserEffects_append, parserEffects_receiver]
    exact runs worker calls
  | case2 s waiting next effects move smaller last more tail ih =>
    obtain ⟨steps, runs⟩ := ih
    rw [tail] at runs
    unfold parse? at move
    split at move
    · cases move
    split at move
    · rename_i d rest queue
      cases handling : Pipeline.handle true now s.pipeline d with
      | mk pipeline made =>
        rw [handling] at move
        cases move
        refine ⟨.handle now d :: steps, fun worker calls => ?_⟩
        have first : Shared.next ⟨s.pipeline, worker, calls⟩ (.handle now d) =
            ⟨pipeline, worker, calls ++ Pipeline.writesOf made⟩ := by
          simp only [Shared.next, handling]
        rw [Shared.run, List.foldl_cons, first]
        refine (runs worker _).trans ?_
        rw [parserEffects_append, parserEffects_pipeline, Pipeline.writesOf_append,
          List.append_assoc]
    · split at move
      · cases move
        exact ⟨steps, runs⟩
      · cases move
  | case3 s waiting idle => exact ⟨[], fun worker calls => congrArg _ (List.append_nil calls).symm⟩

namespace Collector

/-- The calls of the sink among some effects. -/
def writesOf (effects : List Effect) : List Write :=
  effects.filterMap fun
    | .write w => some w
    | _ => none

/-- The pipeline and the worker of a collector, with the calls of the sink so far. -/
def shared (c : Collector) (calls : List Write) : Shared :=
  ⟨c.intake.pipeline, c.worker, calls⟩

theorem writesOf_append (xs ys : List Effect) :
    writesOf (xs ++ ys) = writesOf xs ++ writesOf ys :=
  List.filterMap_append

theorem writesOf_ofIntake (effects : List Intake.Effect) :
    writesOf (effects.map .ofIntake) = Pipeline.writesOf (Intake.parserEffects effects) := by
  induction effects with
  | nil => rfl
  | cons e effects ih =>
    cases e with
    | receiver n => exact ih
    | pipeline e =>
      cases e with
      | notice n => exact ih
      | write w => exact congrArg (w :: ·) ih

theorem writesOf_ofWorker (effects : List StatsWorker.Effect) :
    writesOf (effects.map .ofWorker) = StatsWorker.writesOf effects := by
  induction effects with
  | nil => rfl
  | cons e effects ih =>
    cases e with
    | notice n => exact ih
    | write w => exact congrArg (w :: ·) ih

/-- A collector with a sink comes to another state by steps of the pipeline and of its worker, whose
calls of the sink are among the effects on the way. -/
def Shares (c next : Collector) (effects : List Effect) : Prop :=
  next.hasSink = c.hasSink ∧
    ∃ steps, ∀ calls, (c.shared calls).run steps = next.shared (calls ++ writesOf effects)

section

variable {c d e : Collector} {xs ys : List Effect}

theorem Shares.trans (first : Shares c d xs) (second : Shares d e ys) : Shares c e (xs ++ ys) := by
  obtain ⟨sink, steps, runs⟩ := first
  obtain ⟨same, more, goes⟩ := second
  refine ⟨same.trans sink, steps ++ more, fun calls => ?_⟩
  rw [Shared.run_append, runs, goes, writesOf_append, List.append_assoc]

/-- What reaches neither pipeline nor worker. -/
theorem Shares.aside (sink : d.hasSink = c.hasSink) (pipeline : d.intake.pipeline = c.intake.pipeline)
    (worker : d.worker = c.worker) (silent : writesOf xs = []) : Shares c d xs := by
  refine ⟨sink, [], fun calls => ?_⟩
  rw [silent, List.append_nil, shared, shared, pipeline, worker]
  rfl

/-- What is not a call of the sink. -/
theorem writesOf_eq_nil {effects : List Effect} (silent : ∀ w, .write w ∉ effects) :
    writesOf effects = [] := by
  refine List.filterMap_eq_nil_iff.mpr fun effect mem => ?_
  cases effect with
  | write w => exact absurd mem (silent w)
  | _ => rfl

/-! ## All that a collector does -/

theorem shares_settle (sink : c.hasSink = true) {s : Intake}
    (same : s.pipeline = c.intake.pipeline) : Shares c (c.settle s).1 (c.settle s).2 := by
  obtain ⟨steps, runs⟩ := Intake.exists_steps_settle (c.now / 1000) s
  rw [same, ← sink] at runs
  refine ⟨rfl, steps, fun calls => (runs c.worker calls).trans ?_⟩
  -- Behind the effects of receiver and parser there is at most the end of the receiver.
  obtain ⟨ended, silent, effects⟩ : ∃ ended : List Effect, writesOf ended = [] ∧
      (c.settle s).2 = (s.settle c.hasSink (c.now / 1000)).2.map .ofIntake ++ ended := by
    refine ⟨_, ?_, rfl⟩
    split <;> rfl
  rw [effects, writesOf_append, silent, List.append_nil, writesOf_ofIntake]
  rfl

theorem shares_stepSchedule (c : Collector) (e : RequestSchedule.Step) :
    Shares c (c.stepSchedule e).1 (c.stepSchedule e).2.2 :=
  .aside rfl rfl rfl <| writesOf_eq_nil fun w mem => by
    rcases List.mem_append.mp mem with notice | request
    · obtain ⟨n, -, other⟩ := List.mem_map.mp notice
      cases other
    · cases List.eq_of_mem_replicate request

theorem shares_countRequest (c : Collector) (answer : Except IoError Nat) :
    Shares c (c.countRequest answer).1 (c.countRequest answer).2 :=
  .aside rfl rfl rfl <| writesOf_eq_nil fun w mem => by
    obtain ⟨n, -, other⟩ := List.mem_map.mp mem
    cases other

/-- What the worker of a collector does, if some steps say so of a worker beside a pipeline. -/
theorem shares_stepWorker
    (act : Registry → StatsWorker.State → StatsWorker.State × List StatsWorker.Effect)
    {steps : List StatsWorker.Step}
    (runs : ∀ {s : Shared} {w : StatsWorker.State}, s.worker = some w → s.run steps =
      { s with
        worker := some (act s.pipeline.registry w).1
        calls := s.calls ++ StatsWorker.writesOf (act s.pipeline.registry w).2 })
    (c : Collector) : Shares c (c.stepWorker act).1 (c.stepWorker act).2 := by
  cases beside : c.worker with
  | none =>
    have idle : c.stepWorker act = (c, []) := by simp only [stepWorker, beside]
    rw [idle]
    exact .aside rfl rfl rfl rfl
  | some w =>
    have busy : c.stepWorker act =
        ({ c with worker := some (act c.registry w).1 }, (act c.registry w).2.map .ofWorker) := by
      simp only [stepWorker, beside]
    rw [busy]
    refine ⟨rfl, steps, fun calls => ?_⟩
    rw [runs beside, writesOf_ofWorker]
    rfl

theorem shares_advance (c : Collector) (millis : Nat) :
    Shares c (c.advance millis).1 (c.advance millis).2 := by
  let moved : Collector := { c with now := c.now + millis }
  let sent := moved.stepSchedule (.advance millis)
  have later : Shares c moved [] := .aside rfl rfl rfl rfl
  have scheduled : Shares moved sent.1 sent.2.2 := moved.shares_stepSchedule _
  have written := shares_stepWorker (fun r w => StatsWorker.advance r w millis)
    (fun beside => Shared.run_elapse_wake beside millis) sent.1
  exact (later.trans scheduled).trans written

theorem shares_close (sink : c.hasSink = true) : Shares c c.close.1 c.close.2 := by
  let halted := c.stepSchedule .stop
  let closed := halted.1.stepSchedule .close
  let ended := closed.1.stepWorker StatsWorker.stop
  let shut : Collector := { ended.1 with socket := ended.1.socket.close }
  have announced : Shares c c [.log Notice.closing.event] := .aside rfl rfl rfl rfl
  have stopped : Shares c halted.1 halted.2.2 := c.shares_stepSchedule _
  have quiet : Shares halted.1 closed.1 [] := .aside rfl rfl rfl rfl
  have last : Shares closed.1 ended.1 ended.2 := shares_stepWorker _ Shared.run_stop_wake closed.1
  have unbound : Shares ended.1 shut [] := .aside rfl rfl rfl rfl
  have drained := shares_settle (c := shut) (last.1.trans sink) (s := shut.intake.tell .close) rfl
  have halts : Shares c.close.1 c.close.1 [.log Notice.stopped.event] := .aside rfl rfl rfl rfl
  exact (((announced.trans stopped).trans (quiet.trans last)).trans (unbound.trans drained)).trans halts

/-! ## Runs -/

/-- What a collector is told. -/
inductive Operation
  /-- Something that its schedule is told, such as a start. -/
  | schedule (e : RequestSchedule.Step)
  /-- What the socket has answered to a request. -/
  | answer (a : Except IoError Nat)
  | arrive (d : Datagram)
  | failRead (reason : String)
  | advance (millis : Nat)
  | close

/-- Do what one is told. -/
def operate (c : Collector) : Operation → Collector × List Effect
  | .schedule e => let (next, _, effects) := c.stepSchedule e; (next, effects)
  | .answer a => c.countRequest a
  | .arrive d => c.arrive d
  | .failRead reason => c.failRead reason
  | .advance millis => c.advance millis
  | .close => c.close

def operateAll (c : Collector) : List Operation → Collector × List Effect
  | [] => (c, [])
  | o :: rest =>
    let (next, effects) := c.operate o
    let (last, more) := next.operateAll rest
    (last, effects ++ more)

theorem shares_operate (sink : c.hasSink = true) (o : Operation) :
    Shares c (c.operate o).1 (c.operate o).2 := by
  cases o with
  | schedule e => exact c.shares_stepSchedule e
  | answer a => exact c.shares_countRequest a
  | arrive d =>
    have noted : Shares c { c with lastDatagram := some c.now } [] := .aside rfl rfl rfl rfl
    exact noted.trans (shares_settle (noted.1.trans sink) rfl)
  | failRead reason => exact shares_settle sink rfl
  | advance millis => exact c.shares_advance millis
  | close => exact shares_close sink

theorem shares_operateAll (sink : c.hasSink = true) (operations : List Operation) :
    Shares c (c.operateAll operations).1 (c.operateAll operations).2 := by
  induction operations generalizing c with
  | nil => exact .aside rfl rfl rfl rfl
  | cons o rest ih =>
    have first := shares_operate sink o
    exact first.trans (ih (first.1.trans sink))

end

/-- A run of a collector with a sink is a run of a worker that starts with it beside the pipeline. -/
theorem exists_steps_run (socket : Socket) (target : SocketAddress) (now : Nat)
    (operations : List Operation) :
    let ran := (ofSocket socket target true now).operateAll operations
    ∃ steps, (Shared.started .initial (now * Interval.millisecond)).run steps =
      ran.1.shared (writesOf ran.2) := by
  obtain ⟨-, steps, runs⟩ := shares_operateAll (c := ofSocket socket target true now) rfl operations
  exact ⟨steps, runs []⟩

/-- A collector with a sink has written aggregates three times as often as it has counted ticks. -/
theorem length_aggregates_operateAll (socket : Socket) (target : SocketAddress) (now : Nat)
    (operations : List Operation) :
    let ran := (ofSocket socket target true now).operateAll operations
    ((writesOf ran.2).filter Write.isAggregate).length = 3 * ran.1.counters.globalStatsTicks := by
  intro ran
  obtain ⟨steps, runs⟩ := exists_steps_run socket target now operations
  have counted := StatsWorker.length_aggregates_run .initial (now * Interval.millisecond) steps
  rw [runs] at counted
  exact counted

end Collector

end MeshTelemetry
