import MeshTelemetry.Collector
import MeshTelemetry.Proofs.RequestSchedule.Run

/-!
# The requests of a collector

A step of the schedule hands requests over and counts none of them; each is counted when the host has
answered it. `exists_countAll_carryOut` says so of any host, whatever it answers and whatever it does in
between. On a host that takes all that an open socket sends, a collector counts what the schedule by
itself counts in `RequestSchedule.step` (`carryOut_stepSchedule`).
-/

namespace MeshTelemetry.Collector

open RequestSchedule (countAll)

/-- How many requests are to leave among some effects. -/
def requestsIn (effects : List Effect) : Nat :=
  effects.countP fun
    | .request _ => true
    | _ => false

section

variable {σ : Type} (send : SocketAddress → StateM σ (Except IoError Nat))
  (perform : Effect → StateM σ Unit)

/-- What can be the answer to a request: that the socket is closed, or else something that the host
answers. -/
def IsAnswer (c : Collector) (answer : Except IoError Nat) : Prop :=
  if c.schedule.closed then answer = .error .closed
  else ∃ target host, ((send target).run host).1 = answer

/-- Counting a request leaves the socket as it is. -/
theorem isAnswer_countRequest (c : Collector) (counted answer : Except IoError Nat) :
    (c.countRequest counted).1.IsAnswer send answer ↔ c.IsAnswer send answer := by
  have closed : (c.countRequest counted).1.schedule.closed = c.schedule.closed := by
    cases counted <;> rfl
  unfold IsAnswer
  rw [closed]

/-- The first of some requests is answered and counted before anything else is carried out. -/
theorem exists_carryOut_request (c : Collector) (target : SocketAddress) (rest : List Effect)
    (host : σ) :
    ∃ answer later, c.IsAnswer send answer ∧
      (c.carryOut send perform (.request target :: rest)).run host =
        ((c.countRequest answer).1.carryOut send perform rest).run later := by
  cases closed : c.schedule.closed with
  | true =>
    let counted := c.countRequest (.error .closed)
    refine ⟨.error .closed, ((counted.2.forM perform).run host).2, ?_, ?_⟩
    · simp only [IsAnswer, closed, if_true]
    · simp only [carryOut, closed, if_true, pure_bind, StateT.run_bind]
      rfl
  | false =>
    let sent := (send target).run host
    let counted := c.countRequest sent.1
    refine ⟨sent.1, ((counted.2.forM perform).run sent.2).2, ?_, ?_⟩
    · simp only [IsAnswer, closed, Bool.false_eq_true, if_false]
      exact ⟨target, host, rfl⟩
    · simp only [carryOut, closed, Bool.false_eq_true, if_false, StateT.run_bind]
      rfl

/-- Whatever the host answers, each request is counted once, by the answer to it, and nothing else about
the collector changes. -/
theorem exists_countAll_carryOut (c : Collector) (effects : List Effect) (host : σ) :
    ∃ answers, answers.length = requestsIn effects ∧ (∀ a ∈ answers, c.IsAnswer send a) ∧
      ((c.carryOut send perform effects).run host).1 =
        { c with schedule := (countAll c.schedule answers).1 } := by
  induction effects generalizing c host with
  | nil => exact ⟨[], rfl, List.forall_mem_nil _, rfl⟩
  | cons effect rest ih =>
    have other (silent : requestsIn (effect :: rest) = requestsIn rest)
        (carried : (c.carryOut send perform (effect :: rest)).run host =
          (c.carryOut send perform rest).run ((perform effect).run host).2) :
        ∃ answers, answers.length = requestsIn (effect :: rest) ∧
          (∀ a ∈ answers, c.IsAnswer send a) ∧
          ((c.carryOut send perform (effect :: rest)).run host).1 =
            { c with schedule := (countAll c.schedule answers).1 } := by
      rw [silent, carried]
      exact ih c _
    cases effect with
    | log e => exact other rfl rfl
    | write w => exact other rfl rfl
    | request target =>
      obtain ⟨answer, later, isAnswer, carried⟩ :=
        exists_carryOut_request send perform c target rest host
      obtain ⟨answers, length, each, counted⟩ := ih (c.countRequest answer).1 later
      have one : requestsIn (.request target :: rest) = requestsIn rest + 1 :=
        List.countP_cons_of_pos rfl
      refine ⟨answer :: answers, by rw [List.length_cons, length, one], ?_, ?_⟩
      · rw [List.forall_mem_cons]
        exact ⟨isAnswer, fun a mem => (isAnswer_countRequest send c answer a).mp (each a mem)⟩
      · rw [carried, counted]
        rfl

/-- Each request counts as sent or as a failure. -/
theorem tried_carryOut (c : Collector) (effects : List Effect) (host : σ) :
    let last := ((c.carryOut send perform effects).run host).1
    last.counters.requestsSent + last.counters.sendFailures =
      c.counters.requestsSent + c.counters.sendFailures + requestsIn effects := by
  intro last
  obtain ⟨answers, length, -, counted⟩ := exists_countAll_carryOut send perform c effects host
  have split := answers.length_eq_countP_add_countP (·.isOk)
  have schedule := congrArg Collector.schedule counted
  rw [RequestSchedule.fst_countAll] at schedule
  simp only [counters, last, schedule, ← length, split]
  simp only [Bool.not_eq_true, Bool.decide_eq_false]
  omega

/-- A step hands over a request for each tick that it makes the schedule handle. -/
theorem requestsIn_stepSchedule (c : Collector) (e : RequestSchedule.Step) :
    requestsIn (c.stepSchedule e).2.2 =
      (RequestSchedule.apply c.schedule e).1.dueTicks.length := by
  have notices (ns : List RequestSchedule.Notice) : requestsIn (ns.map .ofSchedule) = 0 := by
    unfold requestsIn
    rw [List.countP_map]
    exact List.countP_eq_zero.mpr fun _ _ => Bool.false_ne_true
  rw [← RequestSchedule.ticks_turn, stepSchedule, requestsIn, List.countP_append, ← requestsIn, notices,
    Nat.zero_add, List.countP_replicate]
  rfl

/-- On a host that takes all that an open socket sends, handing over the requests of a step and counting
them by their answers is the step of the schedule. -/
theorem carryOut_stepSchedule
    (takes : ∀ target host, ((send target).run host).1 = .ok Socket.request.length) (c : Collector)
    (e : RequestSchedule.Step) (host : σ) :
    let (next, _, effects) := c.stepSchedule e
    ((next.carryOut send perform effects).run host).1 =
      { c with schedule := (RequestSchedule.step c.schedule e).1 } := by
  let changed := (RequestSchedule.apply c.schedule e).1
  let waiting := (RequestSchedule.turn changed).1
  let next : Collector := { c with schedule := waiting }
  let effects := (c.stepSchedule e).2.2
  change ((next.carryOut send perform effects).run host).1 =
    { c with schedule := (RequestSchedule.settle changed).1 }
  obtain ⟨answers, length, each, counted⟩ := exists_countAll_carryOut send perform next effects host
  have alike : ∀ a ∈ answers, a = waiting.answer := by
    intro a mem
    have isAnswer := each a mem
    unfold IsAnswer at isAnswer
    unfold RequestSchedule.State.answer
    split at isAnswer
    · rename_i closed
      rw [if_pos closed, isAnswer]
    · rename_i opened
      obtain ⟨target, host, taken⟩ := isAnswer
      rw [if_neg opened, ← taken, takes]
  have replicated : answers =
      List.replicate (RequestSchedule.turn changed).2.1 waiting.answer := by
    rw [List.eq_replicate_iff, length, requestsIn_stepSchedule, RequestSchedule.ticks_turn]
    exact ⟨rfl, alike⟩
  rw [counted, replicated]
  rfl

end

end MeshTelemetry.Collector
