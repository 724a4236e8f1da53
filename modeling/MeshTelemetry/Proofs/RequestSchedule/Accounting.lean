import Mathlib.Data.List.Induction
import MeshTelemetry.Proofs.RequestSchedule.Grid

/-!
# Every tick is accounted for

`Balanced` says that each tick is counted once, as a request sent or as a failure, and that what has
reached the destination is one request for each that counts as sent. It holds along every run.

A stop freezes both counters (`Halted`), and a close freezes the requests sent while failures go on
counting ticks (`Shut`). Neither the loop nor its ticks ever look at the socket: `State.plan` is what
is left of a state without it. Histories that are `Alike` have the same plan and the same ticks. Every
step keeps them so (`Alike.next`), and a close is no step as far as that goes (`alike_close`), so that
a run handles the ticks that it would handle without its closes (`alike_filter`).
-/

namespace MeshTelemetry.RequestSchedule

open Socket (request)

/-! ## The balance -/

/-- The socket of a history is closed exactly if its state says so, each tick has been counted, and
the requests that count as sent have reached their destination. -/
structure Balanced (h : History) : Prop where
  mirrors : h.socket.closed = h.state.closed
  counted : h.state.tried = h.ticks.length
  arrived : h.arrived = List.replicate h.state.requestsSent request

section

variable {h : History}

theorem Balanced.next (books : Balanced h) (e : Step) : Balanced (h.next e) := by
  have change := apply_changes h.state e
  have mirrors : (h.next e).socket.closed = (apply h.state e).1.closed := by
    rw [change.closed_eq, ← books.mirrors]
    unfold History.next
    by_cases close : e = .close <;> simp [close, Socket.close]
  refine ⟨?_, ?_, ?_⟩
  · rw [mirrors, History.state_next, closed_settle]
  · rw [History.state_next, History.ticks_next, tried_settle, change.tried_eq, books.counted,
      List.length_append]
  · change h.arrived ++ (sendEach (h.next e).socket _ _).2.2 =
      List.replicate (settle (apply h.state e).1).1.requestsSent request
    rw [books.arrived, arrived_sendEach, mirrors, requestsSent_settle, ← change.counters.1]
    split <;> simp

theorem balanced_run (address destination : SocketAddress) (steps : List Step) :
    Balanced (History.run address destination steps) :=
  History.foldl_preserves (P := Balanced) (fun _ books => books.next _) ⟨rfl, rfl, rfl⟩

/-! ## Stop and close -/

/-- A stopped schedule that has counted and handled no more than another. -/
structure Halted (before h : History) : Prop where
  stopped : h.state.stopped = true
  sent : h.state.requestsSent = before.state.requestsSent
  failed : h.state.sendFailures = before.state.sendFailures
  ticks : h.ticks = before.ticks

/-- A step that leaves a schedule stopped counts nothing. -/
theorem halted_next {e : Step} (stopped : (apply h.state e).1.stopped = true) :
    Halted h (h.next e) := by
  have idle := dueTicks_of_stopped stopped
  have counters := (apply_changes h.state e).counters
  refine ⟨?_, ?_, ?_, ?_⟩
  · rw [History.state_next, stopped_settle, stopped]
  · rw [History.state_next, requestsSent_settle, idle, counters.1]
    split <;> rfl
  · rw [History.state_next, sendFailures_settle, idle, counters.2]
    split <;> rfl
  · rw [History.ticks_next, idle, List.append_nil]

theorem Halted.trans {first second third : History} (one : Halted first second)
    (two : Halted second third) : Halted first third :=
  ⟨two.stopped, two.sent.trans one.sent, two.failed.trans one.failed, two.ticks.trans one.ticks⟩

/-- From a stop on, nothing is counted. -/
theorem halted_foldl (h : History) (later : List Step) :
    Halted h (later.foldl History.next (h.next .stop)) := by
  refine History.foldl_preserves (P := Halted h) (fun _ halted => halted.trans (halted_next ?_))
    (halted_next rfl)
  rw [(apply_changes _ _).stopped_eq, halted.stopped, Bool.true_or]

/-- A closed schedule that has sent no more than another, and failed once for each tick since. -/
structure Shut (before : History) (more : List Tick) (h : History) : Prop where
  closed : h.state.closed = true
  sent : h.state.requestsSent = before.state.requestsSent
  failed : h.state.sendFailures = before.state.sendFailures + more.length
  ticks : h.ticks = before.ticks ++ more

/-- A step that leaves a schedule closed counts a failure for each tick. -/
theorem shut_next {e : Step} (closed : (apply h.state e).1.closed = true) :
    Shut h (apply h.state e).1.dueTicks (h.next e) := by
  have counters := (apply_changes h.state e).counters
  refine ⟨?_, ?_, ?_, History.ticks_next h e⟩
  · rw [History.state_next, closed_settle, closed]
  · rw [History.state_next, requestsSent_settle, closed, if_pos rfl, counters.1, Nat.add_zero]
  · rw [History.state_next, sendFailures_settle, closed, if_pos rfl, counters.2]

theorem Shut.trans {first second third : History} {some more : List Tick}
    (one : Shut first some second) (two : Shut second more third) :
    Shut first (some ++ more) third where
  closed := two.closed
  sent := two.sent.trans one.sent
  failed := by rw [two.failed, one.failed, List.length_append, Nat.add_assoc]
  ticks := by rw [two.ticks, one.ticks, List.append_assoc]

/-- From a close on, every tick fails. -/
theorem shut_foldl (h : History) (later : List Step) :
    ∃ more, Shut h more (later.foldl History.next (h.next .close)) := by
  refine History.foldl_preserves (P := fun h' => ∃ more, Shut h more h') ?_ ⟨_, shut_next rfl⟩
  rintro h' e - ⟨more, shut⟩
  refine ⟨_, shut.trans (shut_next ?_)⟩
  rw [(apply_changes _ _).closed_eq, shut.closed, Bool.true_or]

end

/-! ## Runs that differ in their closes -/

/-- What is left of a state without its socket and what came of it. -/
def State.plan (s : State) : State :=
  { s with closed := false, requestsSent := 0, sendFailures := 0 }

@[simp] theorem dueTicks_plan (s : State) : s.plan.dueTicks = s.dueTicks := rfl

@[simp] theorem restingLoop_plan (s : State) : s.plan.restingLoop = s.restingLoop := rfl

theorem plan_settle (s : State) : (settle s).1.plan = { s.plan with loop := s.plan.restingLoop } := by
  rw [fst_settle]
  rfl

/-- A step from outside sees the plan only. -/
theorem plan_apply (s : State) (e : Step) : (apply s e).1.plan = (apply s.plan e).1.plan := by
  cases e with
  | start period =>
    by_cases known : s.period.isSome = true
    · simp [apply, start, State.plan, known]
    · by_cases pos : 0 < period.nanos <;> simp [apply, start, State.plan, known, pos]
  | advance millis => rfl
  | stop => rfl
  | close => rfl
  | takeHandle =>
    rcases s with ⟨_, _, _ | _, _, _, _, _ | _, _, _⟩ <;> rfl

/-- Two histories that have the same plan and have handled the same ticks. -/
structure Alike (h other : History) : Prop where
  plan : h.state.plan = other.state.plan
  ticks : h.ticks = other.ticks

/-- What a step does to the plan, and which ticks it makes the loop handle, is up to the plan. -/
theorem Alike.next {h other : History} (alike : Alike h other) (e : Step) :
    Alike (h.next e) (other.next e) := by
  have changed : (apply h.state e).1.plan = (apply other.state e).1.plan := by
    rw [plan_apply h.state, plan_apply other.state, alike.plan]
  have due : (apply h.state e).1.dueTicks = (apply other.state e).1.dueTicks := by
    rw [← dueTicks_plan, changed, dueTicks_plan]
  refine ⟨?_, ?_⟩
  · rw [History.state_next, History.state_next, plan_settle, plan_settle, changed]
  · rw [History.ticks_next, History.ticks_next, alike.ticks, due]

/-- A close makes no difference to a schedule that waits. -/
theorem alike_close {h : History} (rest : h.state.dueTicks = [])
    (waits : h.state.restingLoop = h.state.loop) : Alike (h.next .close) h := by
  refine ⟨?_, ?_⟩
  · rw [History.state_next, plan_settle, restingLoop_plan]
    change { h.state.plan with loop := h.state.restingLoop } = h.state.plan
    rw [waits]
    rfl
  · rw [History.ticks_next]
    change h.ticks ++ h.state.dueTicks = h.ticks
    rw [rest, List.append_nil]

/-- Without its closes a run handles the same ticks. -/
theorem alike_filter (address destination : SocketAddress) (steps : List Step) :
    Alike (History.run address destination steps)
      (History.run address destination (steps.filter (· ≠ .close))) := by
  induction steps using List.reverseRecOn with
  | nil => exact ⟨rfl, rfl⟩
  | append_singleton steps e ih =>
    rw [List.filter_append, History.run_append, History.run_append, List.foldl_cons, List.foldl_nil]
    by_cases close : e = .close
    · subst close
      have same := alike_close (History.dueTicks_run address destination steps)
        (History.restingLoop_run address destination steps)
      exact ⟨same.plan.trans ih.plan, same.ticks.trans ih.ticks⟩
    · rw [List.filter_cons_of_pos (by simpa using close)]
      exact ih.next e

/-- Each tick that is handled counts as a request sent or as a failure, and what has reached the
destination is one request for each that counts as sent. From a stop on neither count moves, wherever it
comes. From a close on no request is sent and every tick is a failure. Runs that differ in nothing but
where and how often they close have handled the same ticks at the same times, and have tried as many
requests. -/
theorem run_accounts (address destination : SocketAddress) (steps : List Step) :
    let h := History.run address destination steps
    h.state.requestsSent + h.state.sendFailures = h.ticks.length ∧
    h.arrived = List.replicate h.state.requestsSent request ∧
    (∀ later,
      let after := (History.run address destination (steps ++ .stop :: later)).state
      after.requestsSent = h.state.requestsSent ∧ after.sendFailures = h.state.sendFailures) ∧
    (∀ later,
      let after := History.run address destination (steps ++ .close :: later)
      after.state.requestsSent = h.state.requestsSent ∧
      ∃ more, after.ticks = h.ticks ++ more ∧
        after.state.sendFailures = h.state.sendFailures + more.length) ∧
    (∀ other, other.filter (· ≠ .close) = steps.filter (· ≠ .close) →
      let twin := History.run address destination other
      twin.ticks = h.ticks ∧
      twin.state.requestsSent + twin.state.sendFailures =
        h.state.requestsSent + h.state.sendFailures) := by
  intro h
  have books : Balanced h := balanced_run address destination steps
  refine ⟨books.counted, books.arrived, fun later => ?_, fun later => ?_, fun other same => ?_⟩
  · intro after
    have halted : Halted h _ := halted_foldl h later
    simp only [after, History.run_append, List.foldl_cons]
    exact ⟨halted.sent, halted.failed⟩
  · intro after
    obtain ⟨more, shut⟩ : ∃ more, Shut h more _ := shut_foldl h later
    simp only [after, History.run_append, List.foldl_cons]
    exact ⟨shut.sent, more, shut.ticks, shut.failed⟩
  · intro twin
    have without := alike_filter address destination other
    rw [same] at without
    have ticks : twin.ticks = h.ticks :=
      without.ticks.trans (alike_filter address destination steps).ticks.symm
    refine ⟨ticks, ?_⟩
    have counted : twin.state.requestsSent + twin.state.sendFailures = twin.ticks.length :=
      (balanced_run address destination other).counted
    rw [counted, ticks]
    exact books.counted.symm

/-- The socket may close before or after the clock jumps: the same three ticks are handled. -/
theorem run_accounts_closed :
    let host : SocketAddress := .v4 ⟨127, 0, 0, 1⟩ 1001
    let steps := [Step.start (.ofMillis 10), .advance 15, .close, .advance 9]
    let other := [Step.start (.ofMillis 10), .close, .advance 15, .advance 9]
    let h := History.run host host steps
    let twin := History.run host host other
    other.filter (· ≠ .close) = steps.filter (· ≠ .close) ∧
      h.state.requestsSent = 2 ∧ twin.state.requestsSent = 1 ∧
      twin.ticks = [⟨0, 0⟩, ⟨10000000, 15000000⟩, ⟨20000000, 24000000⟩] ∧
      h.state.requestsSent + h.state.sendFailures = 3 ∧
      twin.state.requestsSent + twin.state.sendFailures = 3 := by
  intro host steps other h twin
  have same : other.filter (· ≠ .close) = steps.filter (· ≠ .close) := by decide
  have ⟨ticks, sent, twinSent⟩ :
      h.ticks = [⟨0, 0⟩, ⟨10000000, 15000000⟩, ⟨20000000, 24000000⟩] ∧ h.state.requestsSent = 2 ∧
        twin.state.requestsSent = 1 := by
    simp [h, twin, steps, other, History.run, History.initial, History.ticks_next,
      History.state_next, fst_settle, State.dueTicks, State.restingLoop, apply, start,
      State.initial, Ticker.ticks, Ticker.run, Ticker.next, Ticker.grace, Interval.ofMillis,
      Interval.millisecond]
  obtain ⟨counted, -, -, -, alike⟩ := run_accounts host host steps
  obtain ⟨twinTicks, twinTried⟩ := alike other same
  have three : h.state.requestsSent + h.state.sendFailures = 3 := counted.trans (by rw [ticks]; rfl)
  exact ⟨same, sent, twinSent, twinTicks.trans ticks, three, twinTried.trans three⟩

end MeshTelemetry.RequestSchedule
