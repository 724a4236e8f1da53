import MeshTelemetry.RequestSchedule
import MeshTelemetry.Proofs.Ticker

/-!
# Runs of the schedule of requests

`State.dueTicks` lists the ticks that the loop handles before it waits again. What the loop does is
one equation in it: `fst_settle`. The steps from outside are described field by field, since most of
them touch one field only.

`sendOnce` is what a single tick does with the socket. On a host that takes all that an open socket
sends, the answers that `settle` counts are those of the socket (`countAll_eq_sendEach`). A `History` is
a state together with the socket, the ticks handled on the way to it, and the requests that have reached
their destination, which are those that the socket took.
-/

namespace MeshTelemetry.RequestSchedule

open Socket (request)

/-! ## Counting -/

/-- Counting a request touches nothing but the two counts. -/
theorem count_eq (s : State) (answer : Except IoError Nat) :
    (count s answer).1 =
      { s with
        requestsSent := s.requestsSent + answer.isOk.toNat
        sendFailures := s.sendFailures + (!answer.isOk).toNat } := by
  cases answer <;> rfl

/-- Each answer is counted once, as a request sent or as a failure. -/
theorem fst_countAll (s : State) (answers : List (Except IoError Nat)) :
    (countAll s answers).1 =
      { s with
        requestsSent := s.requestsSent + answers.countP (·.isOk)
        sendFailures := s.sendFailures + answers.countP (!·.isOk) } := by
  induction answers generalizing s with
  | nil => rfl
  | cons answer answers ih =>
    rw [countAll, ih, count_eq]
    cases answer <;> simp [Except.isOk, Except.toBool, Nat.add_assoc, Nat.add_comm 1]

/-! ## Sending -/

theorem length_request_le (target : SocketAddress) :
    request.length ≤ Socket.payloadLimit target := by
  have short : request.length ≤ 65507 := by decide +kernel
  cases target with
  | v4 ip port => exact short
  | v6 ip port scope => exact Nat.le_trans short (Nat.le_add_right 65507 20)

/-- A socket takes a request unless it is closed. -/
theorem write_request (socket : Socket) (target : SocketAddress) :
    socket.write target request =
      if socket.closed then .error .closed else .ok request.length := by
  unfold Socket.write
  rw [if_neg (Nat.not_lt.mpr (length_request_le target))]

/-- What one tick does: it writes a request to the socket and counts the answer. A request that the
socket takes reaches its destination. -/
def sendOnce (socket : Socket) (s : State) : State × List Notice × List (List UInt8) :=
  let answer := socket.write s.destination request
  let (next, notices) := count s answer
  (next, notices, (answer.toOption.map fun _ => request).toList)

/-- What some ticks do, one after the other. -/
def sendEach (socket : Socket) (s : State) : List Tick → State × List Notice × List (List UInt8)
  | [] => (s, [], [])
  | _ :: ticks =>
    let (next, notices, sent) := sendOnce socket s
    let (last, more, others) := sendEach socket next ticks
    (last, notices ++ more, sent ++ others)

/-- What reaches the destination is one request for each tick, as long as the socket is open. -/
theorem arrived_sendEach (socket : Socket) (s : State) (ticks : List Tick) :
    (sendEach socket s ticks).2.2 =
      if socket.closed then [] else List.replicate ticks.length request := by
  induction ticks generalizing s with
  | nil => exact (ite_self _).symm
  | cons tick ticks ih =>
    have first : (sendOnce socket s).2.2 = if socket.closed then [] else [request] := by
      unfold sendOnce
      rw [write_request]
      cases socket.closed <;> rfl
    change (sendOnce socket s).2.2 ++ (sendEach socket (sendOnce socket s).1 ticks).2.2 = _
    rw [ih, first]
    split <;> rfl

/-- Sending for one tick after the other counts what a socket in this state answers. -/
theorem countAll_eq_sendEach {socket : Socket} {s : State} (mirrors : socket.closed = s.closed)
    (ticks : List Tick) :
    countAll s (List.replicate ticks.length s.answer) =
      ((sendEach socket s ticks).1, (sendEach socket s ticks).2.1) := by
  induction ticks generalizing s with
  | nil => rfl
  | cons tick ticks ih =>
    have answer : socket.write s.destination request = s.answer := by
      rw [write_request, mirrors, State.answer]
    have kept : (count s s.answer).1.closed = s.closed ∧ (count s s.answer).1.answer = s.answer := by
      rw [count_eq]
      exact ⟨rfl, rfl⟩
    have rest := ih (s := (count s s.answer).1) (mirrors.trans kept.1.symm)
    rw [kept.2] at rest
    simp only [List.length_cons, List.replicate_succ, countAll, rest, sendEach, sendOnce, answer]

/-! ## The loop -/

/-- The ticks that the loop handles before it waits again. -/
def State.dueTicks (s : State) : List Tick :=
  match s.loop with
  | .running ticker => if s.stopped then [] else ticker.ticks s.now
  | _ => []

/-- The loop when it waits again. -/
def State.restingLoop (s : State) : Loop :=
  match s.loop with
  | .running ticker => if s.stopped then .ended else .running (ticker.run s.now).2
  | other => other

theorem fst_turn (s : State) : (turn s).1 = { s with loop := s.restingLoop } := by
  unfold turn State.restingLoop
  obtain ⟨destination, now, period, loop, stopped, closed, handedOver, sent, failed⟩ := s
  cases loop with
  | notStarted => rfl
  | ended => rfl
  | running ticker => cases stopped <;> rfl

/-- The loop handles the ticks that are due, each with a request. -/
theorem ticks_turn (s : State) : (turn s).2.1 = s.dueTicks.length := by
  unfold turn State.dueTicks
  cases s.loop with
  | notStarted => rfl
  | ended => rfl
  | running ticker =>
    cases s.stopped with
    | true => rfl
    | false => exact Ticker.fst_run ticker s.now

/-- All that the loop does to the state. -/
theorem fst_settle (s : State) :
    (settle s).1 =
      { s with
        loop := s.restingLoop
        requestsSent := s.requestsSent + if s.closed then 0 else s.dueTicks.length
        sendFailures := s.sendFailures + if s.closed then s.dueTicks.length else 0 } := by
  change (countAll (turn s).1 (List.replicate (turn s).2.1 (turn s).1.answer)).1 = _
  rw [ticks_turn, fst_turn, fst_countAll]
  simp only [List.countP_replicate, State.answer]
  cases s.closed <;> simp [Except.isOk, Except.toBool]

@[simp] theorem now_settle (s : State) : (settle s).1.now = s.now := by
  rw [fst_settle]

@[simp] theorem period_settle (s : State) : (settle s).1.period = s.period := by
  rw [fst_settle]

@[simp] theorem loop_settle (s : State) : (settle s).1.loop = s.restingLoop := by
  rw [fst_settle]

@[simp] theorem stopped_settle (s : State) : (settle s).1.stopped = s.stopped := by
  rw [fst_settle]

@[simp] theorem closed_settle (s : State) : (settle s).1.closed = s.closed := by
  rw [fst_settle]

theorem requestsSent_settle (s : State) :
    (settle s).1.requestsSent = s.requestsSent + if s.closed then 0 else s.dueTicks.length := by
  rw [fst_settle]

theorem sendFailures_settle (s : State) :
    (settle s).1.sendFailures = s.sendFailures + if s.closed then s.dueTicks.length else 0 := by
  rw [fst_settle]

theorem dueTicks_of_stopped {s : State} (stopped : s.stopped = true) : s.dueTicks = [] := by
  unfold State.dueTicks
  rw [stopped]
  split <;> rfl

/-- When the loop waits, nothing is due. -/
theorem dueTicks_settle (s : State) : (settle s).1.dueTicks = [] := by
  unfold State.dueTicks
  rw [loop_settle, stopped_settle, now_settle, State.restingLoop]
  cases s.loop with
  | notStarted => rfl
  | ended => rfl
  | running ticker =>
    cases s.stopped with
    | true => rfl
    | false => exact Ticker.ticks_of_lt (Ticker.lt_due_run ticker s.now)

/-- A loop that waits goes on waiting. -/
theorem restingLoop_settle (s : State) : (settle s).1.restingLoop = (settle s).1.loop := by
  rw [State.restingLoop, loop_settle, stopped_settle, now_settle, State.restingLoop]
  cases s.loop with
  | notStarted => rfl
  | ended => rfl
  | running ticker =>
    cases s.stopped with
    | true => rfl
    | false =>
      have ahead := Nat.not_le.mpr (Ticker.lt_due_run ticker s.now)
      have waits : (ticker.run s.now).2.run s.now = (0, (ticker.run s.now).2) := by
        rw [Ticker.run, if_neg ahead]
      exact congrArg (fun r => Loop.running r.2) waits

/-! ## Steps from outside -/

/-- How far a step moves the clock, in nanoseconds. -/
def Step.nanos : Step → Nat
  | .advance millis => millis * Interval.millisecond
  | _ => 0

/-- All that a step from outside can do, with its answer, before the loop reacts. -/
inductive Changes (s : State) : Step → State → Reply → Prop
  /-- The first start with a period that is not zero is granted. -/
  | granted {period : Interval} (pos : 0 < period.nanos) : s.period = none →
    Changes s (.start period)
      { s with period := some period, loop := .running ⟨s.now, period.nanos, pos⟩ } .done
  | startedAlready {period : Interval} : s.period.isSome →
    Changes s (.start period) s (.refused .alreadyStarted)
  | withoutPeriod : s.period = none → Changes s (.start ⟨0⟩) s (.refused .zeroInterval)
  | advanced {millis : Nat} :
    Changes s (.advance millis) { s with now := s.now + millis * Interval.millisecond } .done
  | stopped : Changes s .stop { s with stopped := true } .done
  | closed : Changes s .close { s with closed := true } .done
  | handedOver : s.period.isSome → s.handedOver = false →
    Changes s .takeHandle { s with handedOver := true } (.handle true)
  /-- There is no loop to take over, or it has been taken over before. -/
  | withoutLoop : Changes s .takeHandle s (.handle false)

theorem apply_changes (s : State) (e : Step) : Changes s e (apply s e).1 (apply s e).2.1 := by
  cases e with
  | start period =>
    simp only [apply, start]
    by_cases known : s.period.isSome
    · rw [if_pos known]
      exact .startedAlready known
    · have fresh : s.period = none := Option.not_isSome_iff_eq_none.mp known
      rw [if_neg known]
      by_cases pos : 0 < period.nanos
      · rw [dif_pos pos]
        exact .granted pos fresh
      · obtain ⟨nanos⟩ := period
        cases Nat.eq_zero_of_not_pos pos
        exact .withoutPeriod fresh
  | advance millis => exact .advanced
  | stop => exact .stopped
  | close => exact .closed
  | takeHandle =>
    simp only [apply]
    split
    · rename_i free
      simp only [Bool.and_eq_true, Bool.not_eq_true'] at free
      exact .handedOver free.1 free.2
    · exact .withoutLoop

theorem reply_step (s : State) (e : Step) : (step s e).2.1 = (apply s e).2.1 := rfl

section

variable {s next : State} {e : Step} {reply : Reply}

theorem Changes.now (change : Changes s e next reply) : next.now = s.now + e.nanos := by
  cases change <;> rfl

theorem Changes.stopped_eq (change : Changes s e next reply) :
    next.stopped = (s.stopped || decide (e = .stop)) := by
  cases change <;> simp

theorem Changes.closed_eq (change : Changes s e next reply) :
    next.closed = (s.closed || decide (e = .close)) := by
  cases change <;> simp

/-- A schedule that has a period keeps it, and its loop. -/
theorem Changes.loop_eq (change : Changes s e next reply) (known : s.period.isSome) :
    next.loop = s.loop ∧ next.period = s.period := by
  cases change with
  | granted pos fresh => simp [fresh] at known
  | _ => exact ⟨rfl, rfl⟩

/-- Only a start that is granted gives a schedule its period, and only it answers a start so. -/
theorem Changes.granted_of_done {period : Interval} (change : Changes s (.start period) next .done) :
    ∃ pos : 0 < period.nanos, s.period = none ∧
      next = { s with period := some period, loop := .running ⟨s.now, period.nanos, pos⟩ } := by
  cases change with
  | granted pos fresh => exact ⟨pos, fresh, rfl⟩

/-- Without a period nothing has changed the loop. -/
theorem Changes.unstarted (change : Changes s e next reply) (fresh : next.period = none) :
    s.period = none ∧ next.loop = s.loop := by
  cases change with
  | granted pos _ => cases fresh
  | _ => exact ⟨fresh, rfl⟩

/-- No step from outside counts a request. -/
theorem Changes.counters (change : Changes s e next reply) :
    next.requestsSent = s.requestsSent ∧ next.sendFailures = s.sendFailures := by
  cases change <;> exact ⟨rfl, rfl⟩

end

/-! ## Histories -/

/-- A state with its socket, the ticks handled on the way to it, and the requests that have reached
their destination. -/
structure History where
  state : State
  socket : Socket
  ticks : List Tick
  arrived : List (List UInt8)

/-- Nothing has happened yet, and the socket is open. -/
def History.initial (address destination : SocketAddress) : History :=
  ⟨.initial destination, ⟨address, false⟩, [], []⟩

/-- Take a step from outside and let the loop react. -/
def History.next (h : History) (e : Step) : History :=
  let changed := (apply h.state e).1
  let socket := if e = .close then h.socket.close else h.socket
  { state := (step h.state e).1
    socket
    ticks := h.ticks ++ changed.dueTicks
    arrived := h.arrived ++ (sendEach socket changed changed.dueTicks).2.2 }

theorem History.state_next (h : History) (e : Step) :
    (h.next e).state = (settle (apply h.state e).1).1 := rfl

theorem History.ticks_next (h : History) (e : Step) :
    (h.next e).ticks = h.ticks ++ (apply h.state e).1.dueTicks := rfl

/-- Take steps one after the other, from the start. -/
def History.run (address destination : SocketAddress) (steps : List Step) : History :=
  steps.foldl History.next (.initial address destination)

theorem History.run_append (address destination : SocketAddress) (xs ys : List Step) :
    History.run address destination (xs ++ ys) =
      ys.foldl History.next (History.run address destination xs) :=
  List.foldl_append

/-- A history has been stopped if a step of it was a stop. -/
theorem History.stopped_run (address destination : SocketAddress) (steps : List Step) :
    (History.run address destination steps).state.stopped = decide (.stop ∈ steps) := by
  have from_here (h : History) :
      (steps.foldl History.next h).state.stopped = (h.state.stopped || decide (.stop ∈ steps)) := by
    induction steps generalizing h with
    | nil => simp
    | cons e steps ih =>
      have stopped : (h.next e).state.stopped = (h.state.stopped || decide (e = .stop)) := by
        rw [History.state_next, stopped_settle]
        exact (apply_changes h.state e).stopped_eq
      rw [List.foldl_cons, ih, stopped, Bool.or_assoc]
      simp [eq_comm]
  exact from_here _

/-- What every step of some steps keeps holds along all of them. -/
theorem History.foldl_preserves {P : History → Prop} {steps : List Step}
    (kept : ∀ {h e}, e ∈ steps → P h → P (h.next e)) {h : History} (start : P h) :
    P (steps.foldl History.next h) := by
  induction steps generalizing h with
  | nil => exact start
  | cons e steps ih =>
    exact ih (fun mem => kept (List.mem_cons_of_mem e mem)) (kept (List.mem_cons_self ..) start)

/-- Between two steps nothing is due. -/
theorem History.dueTicks_run (address destination : SocketAddress) (steps : List Step) :
    (History.run address destination steps).state.dueTicks = [] :=
  History.foldl_preserves (P := fun h => h.state.dueTicks = [])
    (fun _ _ => dueTicks_settle _) rfl

theorem History.restingLoop_run (address destination : SocketAddress) (steps : List Step) :
    let s := (History.run address destination steps).state
    s.restingLoop = s.loop :=
  History.foldl_preserves (P := fun h => h.state.restingLoop = h.state.loop)
    (fun _ _ => restingLoop_settle _) rfl

end MeshTelemetry.RequestSchedule
