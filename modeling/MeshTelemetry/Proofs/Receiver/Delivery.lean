import Mathlib.Data.List.Induction
import MeshTelemetry.Proofs.Receiver.Advance

/-!
# The receiver delivers an exact prefix

A `History` is a state of the receiver together with what went in and out on the way to it: the
datagrams that were pushed, the entries that were handed out, and the datagram that was in the
receiver's hands when the source was closed.

`Accounted` is the invariant. It balances the entries handed out, the queue, the datagram in hand
and the one lost at a close against the datagrams read, which are the first pushed ones, each cut to
the buffer. It is kept by everything that the receiver does (`Accounted.advance`) and by every step
from outside (`Accounted.apply`), so that it holds along every run (`History.sound_run`).
-/

namespace MeshTelemetry.Receiver

/-! ## Histories -/

/-- The datagram that an answer hands out. -/
def Taken.handed : Taken → List Datagram
  | .datagram d => [d]
  | _ => []

/-- The datagram that a step makes readable. -/
def Step.pushed : Step → List Datagram
  | .push d => [d]
  | _ => []

/-- A state, and what went in and out on the way to it. -/
structure History where
  state : State
  pushed : List Datagram
  delivered : List Datagram
  /-- What the receiver held when the source was closed. -/
  lost : List Datagram

/-- Nothing has happened. -/
def History.initial (capacity : Nat) : History :=
  ⟨.initial capacity, [], [], []⟩

/-- Take a step from outside and let the receiver react. -/
def History.next (h : History) (e : Step) : History where
  state := (step h.state e).1
  pushed := h.pushed ++ e.pushed
  delivered := h.delivered ++ ((step h.state e).2.1.map Taken.handed).getD []
  lost := if e = .close then h.lost ++ h.state.held else h.lost

/-- Take steps one after the other, from the start. -/
def History.run (capacity : Nat) (steps : List Step) : History :=
  steps.foldl History.next (.initial capacity)

theorem History.run_append (capacity : Nat) (xs ys : List Step) :
    History.run capacity (xs ++ ys) = ys.foldl History.next (History.run capacity xs) :=
  List.foldl_append

/-! ## The invariant -/

/-- The datagram that the receiver will put into the queue as soon as there is room. Once the source
is closed it will not. -/
def State.pending (s : State) : List Datagram :=
  if s.closed then [] else s.held

/-- The datagrams among what the source has ready. -/
def State.ready (s : State) : List Datagram :=
  s.unread.filterMap fun
    | .datagram d => some d
    | .failure _ => none

/-- The books of a receiver whose queue has the given capacity. -/
structure Accounted (capacity : Nat) (pushed delivered lost : List Datagram) (s : State) :
    Prop where
  capacity_eq : s.capacity = capacity
  bounded : s.queue.length ≤ capacity
  ready_eq : s.ready = pushed.drop s.received
  received_le : s.received ≤ pushed.length
  balance : s.dropped = false →
    delivered ++ s.queue ++ s.pending ++ lost = (pushed.take s.received).map fitted
  lost_closed : lost ≠ [] → s.closed = true
  lost_length : lost.length ≤ 1

section

variable {capacity : Nat} {pushed delivered lost : List Datagram} {s next : State}

theorem Accounted.lost_eq_nil (books : Accounted capacity pushed delivered lost s)
    (opened : s.closed = false) : lost = [] := by
  cases lost with
  | nil => rfl
  | cons d more => cases opened.symm.trans (books.lost_closed (List.cons_ne_nil d more))

theorem State.pending_stop {reason : ReceiverExit} : (s.stop reason).pending = [] := by
  unfold State.pending
  split <;> rfl

/-- Stopping without a datagram that was still to be queued leaves the books in order. -/
theorem Accounted.stop (books : Accounted capacity pushed delivered lost s)
    (idle : s.pending = []) (reason : ReceiverExit) :
    Accounted capacity pushed delivered lost (s.stop reason) where
  capacity_eq := books.capacity_eq
  bounded := books.bounded
  ready_eq := books.ready_eq
  received_le := books.received_le
  balance kept := by
    have balance := books.balance kept
    rw [idle] at balance
    rw [State.pending_stop]
    exact balance
  lost_closed := books.lost_closed
  lost_length := books.lost_length

/-- Taking the next ready datagram counts it and puts it into the receiver's hands. -/
theorem Accounted.take (books : Accounted capacity pushed delivered lost s) {d : Datagram}
    {rest : List Input} (reading : s.activity = .reading) (opened : s.closed = false)
    (unread : s.unread = .datagram d :: rest) :
    Accounted capacity pushed delivered lost (s.take d rest) := by
  have ready : d :: { s with unread := rest }.ready = pushed.drop s.received := by
    rw [← books.ready_eq]
    simp [State.ready, unread]
  have inside : s.received < pushed.length := by
    rcases Nat.lt_or_ge s.received pushed.length with inside | beyond
    · exact inside
    · rw [List.drop_eq_nil_of_le beyond] at ready
      cases ready
  rw [List.drop_eq_getElem_cons inside] at ready
  obtain ⟨head, tail⟩ := List.cons.inj ready
  rw [State.take_eq]
  refine ⟨books.capacity_eq, books.bounded, tail, inside, ?_, books.lost_closed,
    books.lost_length⟩
  intro kept
  have balance := books.balance kept
  have held : s.pending = [] := by simp [State.pending, State.held, opened, reading]
  rw [held, books.lost_eq_nil opened, List.append_nil, List.append_nil] at balance
  calc delivered ++ s.queue ++ (if s.closed then [] else [fitted d]) ++ lost
      = delivered ++ s.queue ++ [fitted d] := by simp [opened, books.lost_eq_nil opened]
    _ = (pushed.take s.received).map fitted ++ [fitted d] := by rw [balance]
    _ = (pushed.take (s.received + 1)).map fitted := by
      rw [List.take_succ_eq_append_getElem inside, List.map_append, head]
      rfl

/-- The datagram in hand moves to the end of the queue. -/
theorem Accounted.enqueue (books : Accounted capacity pushed delivered lost s) {d : Datagram}
    (holding : s.activity = .holding d) (opened : s.closed = false)
    (room : s.queue.length < s.capacity) :
    Accounted capacity pushed delivered lost (s.enqueue d) where
  capacity_eq := books.capacity_eq
  bounded := by
    have := books.capacity_eq
    simp only [State.enqueue, List.length_append, List.length_singleton]
    omega
  ready_eq := books.ready_eq
  received_le := books.received_le
  balance kept := by
    have balance := books.balance kept
    have held : s.pending = [d] := by simp [State.pending, State.held, opened, holding]
    have empty : (s.enqueue d).pending = [] := by
      unfold State.pending
      split <;> rfl
    rw [held] at balance
    rw [empty, List.append_nil]
    simpa [State.enqueue, List.append_assoc] using balance
  lost_closed := books.lost_closed
  lost_length := books.lost_length

/-- Everything that the receiver does keeps the books in order. -/
theorem Accounted.advance {notices : List Notice} (move : Advances s next notices)
    (books : Accounted capacity pushed delivered lost s) :
    Accounted capacity pushed delivered lost next := by
  cases move with
  | readClosed reading closed =>
    exact books.stop (by simp [State.pending, closed]) _
  | @readFailed reason rest reading opened unread =>
    have skipped : Accounted capacity pushed delivered lost { s with unread := rest } := by
      refine ⟨books.capacity_eq, books.bounded, ?_, books.received_le, books.balance,
        books.lost_closed, books.lost_length⟩
      rw [← books.ready_eq]
      simp [State.ready, unread]
    exact skipped.stop (by simp [State.pending, State.held, reading]) _
  | read reading opened unread => exact books.take reading opened unread
  | heldDropped holding closed =>
    exact books.stop (by simp [State.pending, closed]) _
  | queueGone holding opened gone =>
    -- Without a receiving half nothing is claimed about deliveries.
    refine ⟨books.capacity_eq, books.bounded, books.ready_eq, books.received_le, ?_,
      books.lost_closed, books.lost_length⟩
    intro kept
    cases gone.symm.trans kept
  | enqueued holding opened kept room => exact books.enqueue holding opened room

end

/-! ## Steps from outside -/

/-- What a step from outside can do to a state: it reads nothing and queues nothing, sets the two flags
that stand for it, and begins a read at the start only. -/
structure Touches (s : State) (e : Step) (next : State) : Prop where
  closed : next.closed = (s.closed || decide (e = .close))
  dropped : next.dropped = (s.dropped || decide (e = .dropQueue))
  received : next.received = s.received
  queue : next.queue <:+ s.queue
  activity : (next.activity = s.activity ∧ next.reads = s.reads) ∨
    (s.activity = .notStarted ∧ next.activity = .reading ∧ next.reads = s.reads + 1)

theorem apply_touches (s : State) (e : Step) : Touches s e (apply s e).1 := by
  cases e with
  | start =>
    simp only [apply]
    split
    · rename_i fresh
      exact ⟨by simp, by simp, rfl, List.suffix_refl _, .inr ⟨fresh, rfl, rfl⟩⟩
    · exact ⟨by simp, by simp, rfl, List.suffix_refl _, .inl ⟨rfl, rfl⟩⟩
  | push d => exact ⟨by simp [apply], by simp [apply], rfl, List.suffix_refl _, .inl ⟨rfl, rfl⟩⟩
  | pushError reason =>
    exact ⟨by simp [apply], by simp [apply], rfl, List.suffix_refl _, .inl ⟨rfl, rfl⟩⟩
  | recv =>
    simp only [apply]
    split
    · exact ⟨by simp, by simp, rfl, List.suffix_refl _, .inl ⟨rfl, rfl⟩⟩
    · split
      · rename_i d more queue
        exact ⟨by simp, by simp, rfl, queue ▸ List.suffix_cons d more, .inl ⟨rfl, rfl⟩⟩
      · exact ⟨by simp, by simp, rfl, List.suffix_refl _, .inl ⟨rfl, rfl⟩⟩
  | close => exact ⟨by simp [apply], by simp [apply], rfl, List.suffix_refl _, .inl ⟨rfl, rfl⟩⟩
  | dropQueue => exact ⟨by simp [apply], by simp [apply], rfl, List.nil_suffix, .inl ⟨rfl, rfl⟩⟩

/-- In a state of rest a datagram is held only before a full queue of an open source. -/
theorem held_of_rest {s : State} (rest : advance? s = none) {d : Datagram}
    (holding : s.activity = .holding d) :
    s.closed = false ∧ s.dropped = false ∧ s.capacity ≤ s.queue.length := by
  rcases advance?_eq_none_iff.mp rest with
    activity | ⟨reason, activity⟩ | ⟨activity, -, -⟩ | ⟨other, -, opened, kept, full⟩
  · cases holding.symm.trans activity
  · cases holding.symm.trans activity
  · cases holding.symm.trans activity
  · exact ⟨opened, kept, full⟩

theorem pending_of_rest {s : State} (rest : advance? s = none) : s.pending = s.held := by
  unfold State.pending
  split
  · rename_i closed
    unfold State.held
    split
    · rename_i d holding
      cases closed.symm.trans (held_of_rest rest holding).1
    · rfl
  · rfl

/-- Behind a close nothing is held in a state of rest. -/
theorem held_of_closed {s : State} (rest : advance? s = none) (closed : s.closed = true) :
    s.held = [] := by
  rw [← pending_of_rest rest]
  simp [State.pending, closed]

section

variable {capacity : Nat} {pushed delivered lost : List Datagram} {s : State}

/-- A datagram that becomes readable is the last one pushed. -/
theorem Accounted.push (books : Accounted capacity pushed delivered lost s) (d : Datagram) :
    Accounted capacity (pushed ++ [d]) delivered lost
      { s with unread := s.unread ++ [.datagram d] } := by
  refine ⟨books.capacity_eq, books.bounded, ?_, ?_, ?_, books.lost_closed, books.lost_length⟩
  · rw [List.drop_append_of_le_length books.received_le, ← books.ready_eq]
    simp [State.ready]
  · rw [List.length_append]
    exact Nat.le_add_right_of_le books.received_le
  · intro kept
    rw [List.take_append_of_le_length books.received_le, ← books.balance kept]
    rfl

/-- The first entry of the queue is handed out behind those before it. -/
theorem Accounted.deliver (books : Accounted capacity pushed delivered lost s) {d : Datagram}
    {more : List Datagram} (queue : s.queue = d :: more) :
    Accounted capacity pushed (delivered ++ [d]) lost { s with queue := more } := by
  refine ⟨books.capacity_eq, ?_, books.ready_eq, books.received_le, ?_, books.lost_closed,
    books.lost_length⟩
  · have bounded := books.bounded
    rw [queue, List.length_cons] at bounded
    exact Nat.le_of_succ_le bounded
  · intro kept
    rw [← books.balance kept, queue]
    simp [State.pending, State.held]

/-- What is held at the first close is lost, and nothing is held at a later one. -/
theorem Accounted.close (books : Accounted capacity pushed delivered lost s)
    (rest : advance? s = none) :
    Accounted capacity pushed delivered (lost ++ s.held) { s with closed := true } := by
  refine ⟨books.capacity_eq, books.bounded, books.ready_eq, books.received_le, ?_, fun _ => rfl, ?_⟩
  · intro kept
    rw [← books.balance kept, pending_of_rest rest]
    cases closed : s.closed with
    | true => simp [State.pending, held_of_closed rest closed]
    | false =>
      rw [books.lost_eq_nil closed]
      simp [State.pending]
  · cases closed : s.closed with
    | true => simpa [held_of_closed rest closed] using books.lost_length
    | false =>
      rw [books.lost_eq_nil closed]
      unfold State.held
      split <;> simp

end

/-- The books of a history. -/
abbrev History.Accounted (capacity : Nat) (h : History) : Prop :=
  Receiver.Accounted capacity h.pushed h.delivered h.lost h.state

/-- A step from outside keeps the books in order, before the receiver reacts. -/
theorem Accounted.apply {capacity : Nat} {h : History} (books : h.Accounted capacity)
    (rest : advance? h.state = none) (e : Step) :
    Accounted capacity (h.pushed ++ e.pushed)
      (h.delivered ++ ((apply h.state e).2.map Taken.handed).getD [])
      (if e = .close then h.lost ++ h.state.held else h.lost) (apply h.state e).1 := by
  have ⟨capacity_eq, bounded, ready_eq, received_le, balance, lost_closed, lost_length⟩ := books
  cases e with
  | start =>
    simp only [Receiver.apply, Step.pushed, reduceCtorEq, if_false, List.append_nil]
    split
    · rename_i fresh
      refine ⟨capacity_eq, bounded, ready_eq, received_le, ?_, lost_closed, lost_length⟩
      intro kept
      simpa [State.pending, State.held, fresh] using balance kept
    · simpa using books
  | push d =>
    simp only [Receiver.apply, Step.pushed, reduceCtorEq, if_false, Option.map_none,
      Option.getD_none, List.append_nil]
    exact Accounted.push books d
  | pushError reason =>
    simp only [Receiver.apply, Step.pushed, reduceCtorEq, if_false, Option.map_none,
      Option.getD_none, List.append_nil]
    refine ⟨capacity_eq, bounded, ?_, received_le, balance, lost_closed, lost_length⟩
    rw [← ready_eq]
    simp [State.ready]
  | recv =>
    simp only [Receiver.apply, Step.pushed, reduceCtorEq, if_false, List.append_nil]
    split
    · simpa [Taken.handed] using books
    · split
      · rename_i d more queue
        exact Accounted.deliver books queue
      · have nothing : (if h.state.exit?.isSome then Taken.disconnected else .empty).handed = [] := by
          split <;> rfl
        simpa [nothing] using books
  | close =>
    simp only [Receiver.apply, Step.pushed, if_true, Option.map_none, Option.getD_none,
      List.append_nil]
    exact Accounted.close books rest
  | dropQueue =>
    simp only [Receiver.apply, Step.pushed, reduceCtorEq, if_false, Option.map_none,
      Option.getD_none, List.append_nil]
    exact ⟨capacity_eq, Nat.zero_le _, ready_eq, received_le, fun kept => (by cases kept),
      lost_closed, lost_length⟩

/-- A history whose books are in order and whose receiver is at rest. -/
structure History.Sound (capacity : Nat) (h : History) : Prop where
  accounted : h.Accounted capacity
  rest : advance? h.state = none

theorem History.sound_initial (capacity : Nat) : (History.initial capacity).Sound capacity := by
  refine ⟨⟨rfl, Nat.zero_le _, rfl, Nat.zero_le _, fun _ => rfl, fun lost => ?_, Nat.zero_le _⟩, rfl⟩
  exact absurd rfl lost

theorem History.Sound.next {capacity : Nat} {h : History} (sound : h.Sound capacity) (e : Step) :
    (h.next e).Sound capacity :=
  ⟨settle_preserves Accounted.advance (Accounted.apply sound.accounted sound.rest e),
    advance?_settle _⟩

/-- What every step keeps holds along every run. -/
theorem History.foldl_preserves {P : History → Prop} (kept : ∀ {h} e, P h → P (h.next e))
    (steps : List Step) {h : History} (start : P h) : P (steps.foldl History.next h) := by
  induction steps generalizing h with
  | nil => exact start
  | cons e steps ih => exact ih (kept e start)

theorem History.sound_run (capacity : Nat) (steps : List Step) :
    (History.run capacity steps).Sound capacity :=
  History.foldl_preserves (fun e sound => sound.next e) steps (History.sound_initial capacity)

/-! ## Dropping the receiving half -/

/-- What exactly one kind of step sets, and nothing takes back, tells whether such a step was taken. -/
theorem flag_run {flag : State → Bool} {e : Step}
    (sets : ∀ s e', flag (step s e').1 = (flag s || decide (e' = e))) {capacity : Nat}
    (fresh : flag (.initial capacity) = false) (steps : List Step) :
    flag (History.run capacity steps).state = decide (e ∈ steps) := by
  induction steps using List.reverseRecOn with
  | nil => exact fresh
  | append_singleton steps e' ih =>
    rw [History.run_append]
    refine (sets _ e').trans ?_
    rw [ih]
    simp [eq_comm]

theorem dropped_settle (s : State) : (settle s).1.dropped = s.dropped := by
  refine settle_preserves (P := fun t => t.dropped = s.dropped) ?_ rfl
  intro t next notices move same
  cases move <;> exact same

theorem dropped_step (s : State) (e : Step) :
    (step s e).1.dropped = (s.dropped || decide (e = .dropQueue)) :=
  (dropped_settle (apply s e).1).trans (apply_touches s e).dropped

theorem dropped_run {capacity : Nat} {steps : List Step} (kept : .dropQueue ∉ steps) :
    (History.run capacity steps).state.dropped = false :=
  (flag_run dropped_step rfl steps).trans (decide_eq_false kept)

/-- How many datagrams are still read at most if the receiving half is gone. -/
def State.allowance (s : State) : Nat :=
  match s.activity with
  | .notStarted => 1
  | .reading => 1
  | .holding _ => 0
  | .stopped _ => 0

theorem State.allowance_le (s : State) : s.allowance ≤ if s.held = [] then 1 else 0 := by
  have spent : s.held = [] ∨ s.allowance = 0 := by
    unfold State.held State.allowance
    cases s.activity <;> simp
  have le_one : s.allowance ≤ 1 := by
    unfold State.allowance
    split <;> omega
  split
  · exact le_one
  · rename_i holds
    rcases spent with empty | zero
    · exact absurd empty holds
    · exact Nat.le_of_eq zero

/-- The receiving half is gone, and no more than `total` datagrams will ever be read. -/
def ReadsAtMost (total : Nat) (s : State) : Prop :=
  s.dropped = true ∧ s.received + s.allowance ≤ total

theorem ReadsAtMost.advance {total : Nat} {s next : State} {notices : List Notice}
    (move : Advances s next notices) (capped : ReadsAtMost total s) : ReadsAtMost total next := by
  obtain ⟨gone, bound⟩ := capped
  cases move with
  | readClosed reading closed => exact ⟨gone, Nat.le_trans (Nat.le_add_right _ _) bound⟩
  | readFailed reading opened unread => exact ⟨gone, Nat.le_trans (Nat.le_add_right _ _) bound⟩
  | read reading opened unread =>
    simp only [State.allowance, reading] at bound
    exact ⟨gone, bound⟩
  | heldDropped holding closed => exact ⟨gone, Nat.le_trans (Nat.le_add_right _ _) bound⟩
  | queueGone holding opened dropped => exact ⟨gone, Nat.le_trans (Nat.le_add_right _ _) bound⟩
  | enqueued holding opened kept room => cases gone.symm.trans kept

theorem ReadsAtMost.apply {total : Nat} {s : State} (capped : ReadsAtMost total s) (e : Step) :
    ReadsAtMost total (apply s e).1 := by
  obtain ⟨gone, bound⟩ := capped
  have touches := apply_touches s e
  refine ⟨touches.dropped.trans (by rw [gone, Bool.true_or]), ?_⟩
  unfold State.allowance at bound ⊢
  rcases touches.activity with ⟨activity, -⟩ | ⟨fresh, reading, -⟩
  · rw [touches.received, activity]
    exact bound
  · rw [touches.received, reading]
    rw [fresh] at bound
    exact bound

theorem ReadsAtMost.next {total : Nat} {h : History} (e : Step)
    (capped : ReadsAtMost total h.state) : ReadsAtMost total (h.next e).state :=
  settle_preserves ReadsAtMost.advance (capped.apply e)

/-- Dropping the receiving half leaves room for one more read, and for none if a datagram is
held. -/
theorem readsAtMost_dropQueue (h : History) :
    ReadsAtMost (h.state.received + if h.state.held = [] then 1 else 0)
      (h.next .dropQueue).state :=
  settle_preserves ReadsAtMost.advance ⟨rfl, Nat.add_le_add_left h.state.allowance_le _⟩

/-! ## Every run -/

/-- Along every run whose queue keeps its receiving half, the entries handed out, those in the
queue, the datagram in hand and the one that was in hand at the close are together the first
datagrams pushed, as many as were read, each cut to the buffer. The queue keeps to its capacity, and
a datagram is in hand only while the queue is full. Once the receiving half is dropped, at most one
more datagram is read, and none if one is in hand. -/
theorem run_delivers_inOrder (capacity : Nat) (steps : List Step) :
    let h := History.run capacity steps
    h.pushed = steps.flatMap Step.pushed ∧
    (.dropQueue ∉ steps →
      h.delivered ++ h.state.queue ++ h.state.held ++ h.lost =
        (h.pushed.take h.state.received).map fitted) ∧
    h.state.received ≤ h.pushed.length ∧
    h.lost.length ≤ 1 ∧
    h.state.queue.length ≤ capacity ∧
    (h.state.held = [] ∨ h.state.queue.length = capacity) ∧
    (∀ later, (History.run capacity (steps ++ .dropQueue :: later)).state.received ≤
      h.state.received + if h.state.held = [] then 1 else 0) := by
  intro h
  obtain ⟨books, rest⟩ := History.sound_run capacity steps
  have pushed : ∀ (xs : List Step) (g : History),
      (xs.foldl History.next g).pushed = g.pushed ++ xs.flatMap Step.pushed := by
    intro xs
    induction xs with
    | nil => simp
    | cons e xs ih => simp [ih, History.next, List.append_assoc]
  refine ⟨pushed steps _, ?_, books.received_le, books.lost_length, books.bounded, ?_, ?_⟩
  · intro kept
    have balance := books.balance (dropped_run kept)
    rw [pending_of_rest rest] at balance
    exact balance
  · unfold State.held
    split
    · rename_i d holding
      obtain ⟨-, -, full⟩ := held_of_rest rest holding
      have capacity_eq : h.state.capacity = capacity := books.capacity_eq
      rw [capacity_eq] at full
      exact Or.inr (Nat.le_antisymm books.bounded full)
    · exact Or.inl rfl
  · intro later
    rw [History.run_append, List.foldl_cons]
    have capped := History.foldl_preserves (P := fun g => ReadsAtMost _ g.state)
      (fun e => ReadsAtMost.next e) later (readsAtMost_dropQueue h)
    exact Nat.le_trans (Nat.le_add_right _ _) capped.2

/-- A close while a second datagram waits for room in a queue of one entry loses that datagram. -/
theorem run_delivers_inOrder_waiting :
    let source : SocketAddress := .v4 ⟨203, 0, 113, 5⟩ 1234
    let steps := [Step.start, .push ⟨source, [1, 2]⟩, .push ⟨source, [3]⟩, .close, .recv]
    let h := History.run 1 steps
    .dropQueue ∉ steps ∧
      h.delivered ++ h.state.queue ++ h.state.held ++ h.lost =
        [⟨source, [1, 2]⟩, ⟨source, [3]⟩] ∧
      h.lost = [⟨source, [3]⟩] := by
  intro source steps h
  have kept : .dropQueue ∉ steps := by simp [steps]
  have run : h.state.received = 2 ∧ h.lost = [⟨source, [3]⟩] := by
    simp [h, steps, History.run, History.next, History.initial, step, settle, advance?, apply,
      State.take_eq, State.initial, fitted, State.stop, maxDatagramSize, State.held]
  have balance := (run_delivers_inOrder 1 steps).2.1 kept
  rw [run.1] at balance
  exact ⟨kept, balance, run.2⟩

end MeshTelemetry.Receiver
