import MeshTelemetry.Intake
import MeshTelemetry.Proofs.Pipeline.Run
import MeshTelemetry.Proofs.Receiver.Advance
import Mathlib.Logic.Relation

/-!
# Conservation on the way to the registry

A `Ledger` is a state of the intake together with what happened on the way to it. `Step` is one thing
that happens: to the source, to the receiver or to the parser. It lets the three race. A read, and
the transfer of a datagram into the queue, are possible behind a close that the receiver has not yet
seen, so that the runs of the program are among those of `Step` (`Conserved.step_move?`) but not the
other way round.

`Conserved` is the invariant: the datagrams read are, in this order, those handled, those in the
queue, the one in hand and the one discarded, and the pipeline is where handling them one after the
other leads. `reachable_conserves` is what follows for the counters and for a shutdown.
-/

namespace MeshTelemetry.Intake

open Receiver (fitted)

/-! ## Steps -/

/-- A state, and what happened on the way to it. -/
structure Ledger where
  state : Intake
  /-- What the receiver has read, in this order. -/
  read : List Datagram
  /-- What the parser has handled, each with the time at which it did. -/
  handled : List (Int × Datagram)
  /-- What the receiver was holding when it saw the close. -/
  discarded : List Datagram
  /-- What the parser has left behind. -/
  effects : List Pipeline.Effect

/-- Nothing has happened. -/
def Ledger.initial (capacity : Nat) : Ledger :=
  ⟨.initial capacity, [], [], [], []⟩

/-- Another receiver, everything else as it was. -/
def Ledger.withReceiver (l : Ledger) (r : Receiver.State) : Ledger :=
  { l with state := { l.state with receiver := r } }

/-- The parser has taken a datagram off the queue and handled it. -/
def Ledger.handle (hasSink : Bool) (now : Int) (l : Ledger) (d : Datagram) (rest : List Datagram) :
    Ledger :=
  let (pipeline, effects) := Pipeline.handle hasSink now l.state.pipeline d
  { l with
    state :=
      { l.state with receiver := { l.state.receiver with queue := rest }, pipeline := pipeline }
    handled := l.handled ++ [(now, d)]
    effects := l.effects ++ effects }

/-- One thing that happens. -/
inductive Step (hasSink : Bool) : Ledger → Ledger → Prop
  /-- A datagram becomes readable. -/
  | arrive (l : Ledger) (d : Datagram) :
    Step hasSink l { l with state := l.state.tell (.push d) }
  /-- A read error becomes due. -/
  | failRead (l : Ledger) (reason : String) :
    Step hasSink l { l with state := l.state.tell (.pushError reason) }
  | close (l : Ledger) : Step hasSink l { l with state := l.state.tell .close }
  | read {l : Ledger} {d : Datagram} {rest : List Receiver.Input} :
    l.state.receiver.activity = .reading → l.state.receiver.unread = .datagram d :: rest →
    Step hasSink l
      { l.withReceiver (l.state.receiver.take d rest) with read := l.read ++ [fitted d] }
  | readError {l : Ledger} {reason : String} {rest : List Receiver.Input} :
    l.state.receiver.activity = .reading → l.state.receiver.unread = .failure reason :: rest →
    Step hasSink l (l.withReceiver ({ l.state.receiver with unread := rest }.stop
      (if l.state.receiver.closed then .socketClosed else .readFailed)))
  | enqueue {l : Ledger} {d : Datagram} : l.state.receiver.activity = .holding d →
    l.state.receiver.queue.length < l.state.receiver.capacity →
    Step hasSink l (l.withReceiver (l.state.receiver.enqueue d))
  /-- The receiver sees the close in a read. -/
  | stopReading {l : Ledger} : l.state.receiver.activity = .reading →
    l.state.receiver.closed = true →
    Step hasSink l (l.withReceiver (l.state.receiver.stop .socketClosed))
  /-- The receiver sees the close with a datagram in hand. -/
  | discard {l : Ledger} {d : Datagram} : l.state.receiver.activity = .holding d →
    l.state.receiver.closed = true →
    Step hasSink l
      { l.withReceiver (l.state.receiver.stop .socketClosed) with
        discarded := l.discarded ++ [d] }
  | handle {l : Ledger} {d : Datagram} {rest : List Datagram} (now : Int) :
    l.state.parserEnded = false → l.state.receiver.queue = d :: rest →
    Step hasSink l (l.handle hasSink now d rest)
  /-- The parser ends: the queue is empty, and the receiver is gone. -/
  | endParser {l : Ledger} : l.state.parserEnded = false → l.state.receiver.queue = [] →
    l.state.receiver.exit?.isSome = true →
    Step hasSink l
      { l with
        state := { l.state with parserEnded := true }
        effects := l.effects ++ [.notice .queueEnded] }

/-- What can come about before a queue of the given capacity, in any order of steps. -/
def Reachable (hasSink : Bool) (capacity : Nat) : Ledger → Prop :=
  Relation.ReflTransGen (Step hasSink) (.initial capacity)

/-! ## The invariant -/

/-- The datagrams read are those handled, queued, in hand and discarded, in this order. -/
structure Conserved (hasSink : Bool) (capacity : Nat) (l : Ledger) : Prop where
  balance : l.read = l.handled.map (·.2) ++ l.state.receiver.queue ++ l.state.receiver.held ++
    l.discarded
  received_eq : l.state.receiver.received = l.read.length
  capacity_eq : l.state.receiver.capacity = capacity
  bounded : l.state.receiver.queue.length ≤ capacity
  kept : l.state.receiver.dropped = false
  pipeline_eq : l.state.pipeline = (Pipeline.handleAll hasSink .initial l.handled).1
  calls_eq : Pipeline.sinkCalls l.effects =
    Pipeline.sinkCalls (Pipeline.handleAll hasSink .initial l.handled).2
  discarded_length : l.discarded.length ≤ 1
  discarded_closed : l.discarded = [] ∨
    l.state.receiver.closed = true ∧ l.state.receiver.activity = .stopped .socketClosed
  ended : l.state.parserEnded = true →
    l.state.receiver.queue = [] ∧ l.state.receiver.exit?.isSome = true

theorem Conserved.initial (hasSink : Bool) (capacity : Nat) :
    Conserved hasSink capacity (.initial capacity) where
  balance := rfl
  received_eq := rfl
  capacity_eq := rfl
  bounded := Nat.zero_le _
  kept := rfl
  pipeline_eq := rfl
  calls_eq := rfl
  discarded_length := Nat.zero_le _
  discarded_closed := Or.inl rfl
  ended finished := by cases finished

section

variable {hasSink : Bool} {capacity : Nat} {l : Ledger}

/-- Nothing has been discarded while the receiver runs. -/
theorem Conserved.discarded_eq_nil (books : Conserved hasSink capacity l)
    (running : l.state.receiver.exit? = none) : l.discarded = [] := by
  rcases books.discarded_closed with none | ⟨-, stopped⟩
  · exact none
  · simp [Receiver.State.exit?, stopped] at running

/-- The parser does not end before the receiver. -/
theorem Conserved.parser_running (books : Conserved hasSink capacity l)
    (running : l.state.receiver.exit? = none) : l.state.parserEnded = false := by
  cases ended : l.state.parserEnded with
  | false => rfl
  | true =>
    have stopped := (books.ended ended).2
    rw [running] at stopped
    cases stopped

/-- What is told to the source moves no datagram. -/
theorem Conserved.told (books : Conserved hasSink capacity l) (unread : List Receiver.Input)
    (closed : Bool) (closes : l.state.receiver.closed = true → closed = true) :
    Conserved hasSink capacity
      (l.withReceiver { l.state.receiver with unread := unread, closed := closed }) where
  balance := books.balance
  received_eq := books.received_eq
  capacity_eq := books.capacity_eq
  bounded := books.bounded
  kept := books.kept
  pipeline_eq := books.pipeline_eq
  calls_eq := books.calls_eq
  discarded_length := books.discarded_length
  discarded_closed := by
    rcases books.discarded_closed with none | ⟨seen, stopped⟩
    · exact Or.inl none
    · exact Or.inr ⟨closes seen, stopped⟩
  ended := books.ended

/-- A read moves a datagram from the source into the receiver's hands. -/
theorem Conserved.read (books : Conserved hasSink capacity l) {d : Datagram}
    {rest : List Receiver.Input} (reading : l.state.receiver.activity = .reading) :
    Conserved hasSink capacity
      { l.withReceiver (l.state.receiver.take d rest) with read := l.read ++ [fitted d] } := by
  have running : l.state.receiver.exit? = none := by simp [Receiver.State.exit?, reading]
  have free : l.state.receiver.held = [] := by simp [Receiver.State.held, reading]
  have none := books.discarded_eq_nil running
  have parsing := books.parser_running running
  rw [Receiver.State.take_eq]
  refine ⟨?_, ?_, books.capacity_eq, books.bounded, books.kept, books.pipeline_eq, books.calls_eq,
    books.discarded_length, Or.inl none, ?_⟩
  · have balance := books.balance
    rw [free, none, List.append_nil, List.append_nil] at balance
    simp [Ledger.withReceiver, Receiver.State.held, balance, none]
  · simp [Ledger.withReceiver, books.received_eq]
  · intro finished
    cases parsing.symm.trans finished

/-- A transfer moves the datagram in hand to the end of the queue. -/
theorem Conserved.enqueue (books : Conserved hasSink capacity l) {d : Datagram}
    (holding : l.state.receiver.activity = .holding d)
    (room : l.state.receiver.queue.length < l.state.receiver.capacity) :
    Conserved hasSink capacity (l.withReceiver (l.state.receiver.enqueue d)) := by
  have running : l.state.receiver.exit? = none := by simp [Receiver.State.exit?, holding]
  have inHand : l.state.receiver.held = [d] := by simp [Receiver.State.held, holding]
  have none := books.discarded_eq_nil running
  have parsing := books.parser_running running
  refine ⟨?_, books.received_eq, books.capacity_eq, ?_, books.kept, books.pipeline_eq,
    books.calls_eq, books.discarded_length, Or.inl none, ?_⟩
  · have balance := books.balance
    rw [inHand] at balance
    rw [show (l.withReceiver (l.state.receiver.enqueue d)).read = l.read from rfl, balance]
    simp [Ledger.withReceiver, Receiver.State.enqueue, Receiver.State.held]
  · rw [books.capacity_eq] at room
    simpa [Ledger.withReceiver, Receiver.State.enqueue] using Nat.succ_le_of_lt room
  · intro finished
    cases parsing.symm.trans finished

/-- Stopping with nothing in hand moves no datagram. -/
theorem Conserved.stop (books : Conserved hasSink capacity l)
    (reading : l.state.receiver.activity = .reading) (unread : List Receiver.Input)
    (reason : ReceiverExit) :
    Conserved hasSink capacity
      (l.withReceiver ({ l.state.receiver with unread := unread }.stop reason)) := by
  have free : l.state.receiver.held = [] := by simp [Receiver.State.held, reading]
  have running : l.state.receiver.exit? = none := by simp [Receiver.State.exit?, reading]
  refine ⟨?_, books.received_eq, books.capacity_eq, books.bounded, books.kept, books.pipeline_eq,
    books.calls_eq, books.discarded_length, Or.inl (books.discarded_eq_nil running), ?_⟩
  · have balance := books.balance
    rw [free] at balance
    exact balance
  · intro finished
    exact ⟨(books.ended finished).1, rfl⟩

/-- Seeing the close moves the datagram in hand to the discarded ones. -/
theorem Conserved.discard (books : Conserved hasSink capacity l) {d : Datagram}
    (holding : l.state.receiver.activity = .holding d) (closed : l.state.receiver.closed = true) :
    Conserved hasSink capacity
      { l.withReceiver (l.state.receiver.stop .socketClosed) with
        discarded := l.discarded ++ [d] } := by
  have running : l.state.receiver.exit? = none := by simp [Receiver.State.exit?, holding]
  have inHand : l.state.receiver.held = [d] := by simp [Receiver.State.held, holding]
  have none := books.discarded_eq_nil running
  refine ⟨?_, books.received_eq, books.capacity_eq, books.bounded, books.kept, books.pipeline_eq,
    books.calls_eq, ?_, Or.inr ⟨closed, rfl⟩, ?_⟩
  · have balance := books.balance
    rw [inHand, none, List.append_nil] at balance
    simp [Ledger.withReceiver, Receiver.State.stop, Receiver.State.held, balance, none]
  · simp [none]
  · intro finished
    exact ⟨(books.ended finished).1, rfl⟩

/-- Handling moves a datagram from the front of the queue to the end of those handled. -/
theorem Conserved.handle (books : Conserved hasSink capacity l) (now : Int) {d : Datagram}
    {rest : List Datagram} (parsing : l.state.parserEnded = false)
    (queue : l.state.receiver.queue = d :: rest) :
    Conserved hasSink capacity (l.handle hasSink now d rest) := by
  have run := Pipeline.handleAll_append hasSink .initial l.handled [(now, d)]
  rw [← books.pipeline_eq] at run
  refine ⟨?_, books.received_eq, books.capacity_eq, ?_, books.kept, ?_, ?_, books.discarded_length,
    books.discarded_closed, ?_⟩
  · have balance := books.balance
    rw [queue] at balance
    rw [show (l.handle hasSink now d rest).read = l.read from rfl, balance]
    simp [Ledger.handle, Receiver.State.held]
  · have bounded := books.bounded
    rw [queue, List.length_cons] at bounded
    exact Nat.le_of_succ_le bounded
  · exact (congrArg Prod.fst run).symm
  · have effects := congrArg (fun x => Pipeline.sinkCalls x.2) run
    simp only [Pipeline.sinkCalls_append, ← books.calls_eq] at effects
    simp only [Ledger.handle, Pipeline.sinkCalls_append, effects, Pipeline.handleAll,
      List.append_nil]
  · intro finished
    cases parsing.symm.trans finished

/-- Every step conserves the datagrams. -/
theorem Conserved.step {next : Ledger} (step : Step hasSink l next)
    (books : Conserved hasSink capacity l) : Conserved hasSink capacity next := by
  cases step with
  | arrive d => exact books.told _ _ id
  | failRead reason => exact books.told _ _ id
  | close => exact books.told _ _ fun _ => rfl
  | read reading unread => exact books.read reading
  | readError reading unread => exact books.stop reading _ _
  | enqueue holding room => exact books.enqueue holding room
  | stopReading reading closed => exact books.stop reading _ _
  | discard holding closed => exact books.discard holding closed
  | handle now parsing queue => exact books.handle now parsing queue
  | endParser parsing empty gone =>
    refine ⟨books.balance, books.received_eq, books.capacity_eq, books.bounded, books.kept,
      books.pipeline_eq, ?_, books.discarded_length, books.discarded_closed, fun _ => ⟨empty, gone⟩⟩
    rw [Pipeline.sinkCalls_append, ← books.calls_eq]
    exact List.append_nil _

theorem Reachable.conserved (reachable : Reachable hasSink capacity l) :
    Conserved hasSink capacity l := by
  induction reachable with
  | refl => exact .initial hasSink capacity
  | tail _ step books => exact books.step step

end

/-! ## The steps of the program -/

/-- The effects of the parser among those of receiver and parser. -/
def parserEffects (effects : List Effect) : List Pipeline.Effect :=
  effects.filterMap fun
    | .pipeline e => some e
    | .receiver _ => none

theorem parserEffects_append (xs ys : List Effect) :
    parserEffects (xs ++ ys) = parserEffects xs ++ parserEffects ys :=
  List.filterMap_append

theorem parserEffects_receiver (notices : List Receiver.Notice) :
    parserEffects (notices.map .receiver) = [] := by
  induction notices with
  | nil => rfl
  | cons n notices ih => exact ih

theorem parserEffects_pipeline (effects : List Pipeline.Effect) :
    parserEffects (effects.map .pipeline) = effects := by
  induction effects with
  | nil => rfl
  | cons e effects ih => exact congrArg (e :: ·) ih

section

variable {hasSink : Bool} {capacity : Nat} {l : Ledger} {now : Int} {next : Intake}
  {effects : List Effect}

/-- What the receiver of the program does is a step. -/
theorem Conserved.step_receive? (books : Conserved hasSink capacity l)
    (move : l.state.receive? = some (next, effects)) :
    ∃ l', Step hasSink l l' ∧ l'.state = next ∧ l'.effects = l.effects ++ parserEffects effects := by
  unfold receive? at move
  simp only [Option.map_eq_some_iff, Prod.exists, Prod.mk.injEq] at move
  obtain ⟨receiver, notices, advanced, rfl, rfl⟩ := move
  have silent : l.effects = l.effects ++ parserEffects (notices.map .receiver) := by
    rw [parserEffects_receiver, List.append_nil]
  cases Receiver.advances_of_advance? advanced with
  | readClosed reading closed => exact ⟨_, .stopReading reading closed, rfl, silent⟩
  | readFailed reading opened unread =>
    refine ⟨_, .readError reading unread, ?_, silent⟩
    simp [Ledger.withReceiver, opened]
  | read reading opened unread => exact ⟨_, .read reading unread, rfl, silent⟩
  | heldDropped holding closed => exact ⟨_, .discard holding closed, rfl, silent⟩
  | queueGone holding opened gone => cases gone.symm.trans books.kept
  | enqueued holding opened kept room => exact ⟨_, .enqueue holding room, rfl, silent⟩

/-- What the parser of the program does is a step. -/
theorem step_parse? (move : l.state.parse? hasSink now = some (next, effects)) :
    ∃ l', Step hasSink l l' ∧ l'.state = next ∧ l'.effects = l.effects ++ parserEffects effects := by
  unfold parse? at move
  split at move
  · cases move
  · rename_i parsing
    rw [Bool.not_eq_true] at parsing
    split at move
    · rename_i d rest queue
      cases move
      refine ⟨_, .handle now parsing queue, rfl, ?_⟩
      rw [parserEffects_pipeline]
      rfl
    · rename_i queue
      split at move
      · rename_i gone
        cases move
        exact ⟨_, .endParser parsing queue gone, rfl, rfl⟩
      · cases move

/-- Every move of the program is a step. -/
theorem Conserved.step_move? (books : Conserved hasSink capacity l) {m : Move}
    (move : l.state.move? hasSink now m = some (next, effects)) :
    ∃ l', Step hasSink l l' ∧ l'.state = next ∧ l'.effects = l.effects ++ parserEffects effects := by
  cases m with
  | arrive d =>
    cases move
    exact ⟨_, .arrive l d, rfl, (List.append_nil _).symm⟩
  | failRead reason =>
    cases move
    exact ⟨_, .failRead l reason, rfl, (List.append_nil _).symm⟩
  | close =>
    cases move
    exact ⟨_, .close l, rfl, (List.append_nil _).symm⟩
  | receive => exact books.step_receive? move
  | parse => exact step_parse? move

/-- Make moves one after the other, each at its time; none if one of them is not possible. -/
def moves? (hasSink : Bool) (s : Intake) : List (Int × Move) → Option (Intake × List Effect)
  | [] => some (s, [])
  | (now, m) :: rest =>
    (s.move? hasSink now m).bind fun (next, effects) =>
      (moves? hasSink next rest).map fun (last, more) => (last, effects ++ more)

/-- What is left behind on the way is what the first part of it leaves behind, then the rest. -/
theorem exists_reachable_append {middle : Ledger} {first more : List Effect}
    (left : middle.effects = l.effects ++ parserEffects first)
    (onward : ∃ l', Reachable hasSink capacity l' ∧ l'.state = next ∧
      l'.effects = middle.effects ++ parserEffects more) :
    ∃ l', Reachable hasSink capacity l' ∧ l'.state = next ∧
      l'.effects = l.effects ++ parserEffects (first ++ more) := by
  obtain ⟨l', reached, there, rest⟩ := onward
  refine ⟨l', reached, there, ?_⟩
  rw [rest, left, parserEffects_append, List.append_assoc]

/-- Moves of the program lead from reachable states to reachable states. -/
theorem Reachable.moves {run : List (Int × Move)} (reachable : Reachable hasSink capacity l)
    (moved : l.state.moves? hasSink run = some (next, effects)) :
    ∃ l', Reachable hasSink capacity l' ∧ l'.state = next ∧
      l'.effects = l.effects ++ parserEffects effects := by
  induction run generalizing l effects with
  | nil =>
    cases moved
    exact ⟨l, reachable, rfl, (List.append_nil _).symm⟩
  | cons x run ih =>
    obtain ⟨now, m⟩ := x
    simp only [moves?, Option.bind_eq_some_iff, Option.map_eq_some_iff, Prod.exists,
      Prod.mk.injEq] at moved
    obtain ⟨middle, first, move, last, more, tail, here, both⟩ := moved
    subst here both
    obtain ⟨l', step, state, left⟩ := reachable.conserved.step_move? move
    rw [← state] at tail
    exact exists_reachable_append left (ih (reachable.tail step) tail)

/-- Where the program comes to rest can be reached. -/
theorem Reachable.settle (hasSink : Bool) (now : Int) {s : Intake} {l : Ledger}
    (reachable : Reachable hasSink capacity l) (here : l.state = s) :
    ∃ l', Reachable hasSink capacity l' ∧ l'.state = (s.settle hasSink now).1 ∧
      l'.effects = l.effects ++ parserEffects (s.settle hasSink now).2 := by
  fun_induction Intake.settle hasSink now s generalizing l with
  | case1 s next effects move smaller last more tail ih =>
    subst here
    obtain ⟨l', step, here, left⟩ := reachable.conserved.step_receive? move
    have onward := ih (reachable.tail step) here
    rw [tail] at onward
    exact exists_reachable_append left onward
  | case2 s waiting next effects move smaller last more tail ih =>
    subst here
    obtain ⟨l', step, here, left⟩ := step_parse? move
    have onward := ih (reachable.tail step) here
    rw [tail] at onward
    exact exists_reachable_append left onward
  | case3 s waiting idle =>
    exact ⟨l, reachable, here, (List.append_nil _).symm⟩

end

/-! ## Every reachable state -/

section

variable {hasSink : Bool} {capacity : Nat} {l : Ledger}

theorem Conserved.received_outcomes (books : Conserved hasSink capacity l) :
    l.state.receiver.received =
      l.state.pipeline.counters.decodeFailures + l.state.pipeline.counters.invalidNodeIds +
        l.state.pipeline.counters.nodesUpdated + l.state.receiver.queue.length +
        l.state.receiver.held.length + l.discarded.length := by
  have outcomes := Pipeline.outcomes_handleAll hasSink .initial l.handled
  rw [← books.pipeline_eq] at outcomes
  have lengths := congrArg List.length books.balance
  simp only [List.length_append, List.length_map] at lengths
  have received := books.received_eq
  simp only [Counters.outcomes] at outcomes
  change _ = 0 + _ at outcomes
  omega

/-- When receiver and parser have ended, everything read was handled or discarded. -/
theorem Conserved.read_eq (books : Conserved hasSink capacity l)
    (finished : l.state.hasEnded = true) : l.read = l.handled.map (·.2) ++ l.discarded := by
  rw [hasEnded, Bool.and_eq_true] at finished
  rcases books.ended finished.2 with ⟨empty, -⟩
  have free : l.state.receiver.held = [] := by
    have gone := finished.1
    unfold Receiver.State.exit? at gone
    unfold Receiver.State.held
    split
    · rename_i d holding
      rw [holding] at gone
      cases gone
    · rfl
  have balance := books.balance
  rwa [empty, free, List.append_nil, List.append_nil] at balance

/-- State and calls are those of one drain of the datagrams handled, but for times. -/
theorem Conserved.same_drain (books : Conserved hasSink capacity l)
    {queue : List (Int × Datagram)} (same : queue.map (·.2) = l.handled.map (·.2)) :
    Pipeline.SameButTimes l.state.pipeline (Pipeline.drain hasSink .initial queue).1 ∧
      Pipeline.sinkCalls l.effects =
        Pipeline.sinkCalls (Pipeline.drain hasSink .initial queue).2 := by
  obtain ⟨states, effects⟩ :=
    Pipeline.handleAll_congr hasSink (s := .initial) (t := .initial) ⟨rfl, rfl⟩ same.symm
  rw [Pipeline.fst_drain, Pipeline.snd_drain, Pipeline.sinkCalls_append, books.pipeline_eq,
    books.calls_eq]
  exact ⟨states, effects.calls.trans (List.append_nil _).symm⟩

end

/-- In every reachable state each datagram received has been counted with one outcome, is in the
queue, is in the receiver's hand or was discarded, and the last two hold for one datagram at most.
When receiver and parser have ended, the sections of the registry, the counters and the calls of the
sink are those of a parser that works off the datagrams read in the order in which they were read,
but for the last one if the receiver was holding it when it saw the close. Every move of the program is
a step, and its runs lead to reachable states. -/
theorem reachable_conserves {hasSink : Bool} {capacity : Nat} {l : Ledger}
    (reachable : Reachable hasSink capacity l) :
    let receiver := l.state.receiver
    let counters := l.state.pipeline.counters
    receiver.received = l.read.length ∧
    receiver.received =
      counters.decodeFailures + counters.invalidNodeIds + counters.nodesUpdated +
        receiver.queue.length + receiver.held.length + l.discarded.length ∧
    receiver.queue.length ≤ capacity ∧ receiver.held.length ≤ 1 ∧ l.discarded.length ≤ 1 ∧
    (l.discarded = [] ∨ receiver.closed = true ∧ receiver.exit? = some .socketClosed) ∧
    (l.state.hasEnded = true → ∃ processed, l.read = processed ++ l.discarded ∧
      ∀ queue : List (Int × Datagram), queue.map (·.2) = processed →
        Pipeline.SameButTimes l.state.pipeline (Pipeline.drain hasSink .initial queue).1 ∧
        Pipeline.sinkCalls l.effects =
          Pipeline.sinkCalls (Pipeline.drain hasSink .initial queue).2) ∧
    (∀ now m, ∀ move ∈ l.state.move? hasSink now m,
      ∃ l', Step hasSink l l' ∧ Reachable hasSink capacity l' ∧ l'.state = move.1 ∧
        l'.effects = l.effects ++ parserEffects move.2) ∧
    ∀ run, ∀ moved ∈ l.state.moves? hasSink run,
      ∃ l', Reachable hasSink capacity l' ∧ l'.state = moved.1 ∧
        l'.effects = l.effects ++ parserEffects moved.2 := by
  intro receiver counters
  have books := reachable.conserved
  refine ⟨books.received_eq, books.received_outcomes, books.bounded, ?_, books.discarded_length, ?_,
    ?_, ?_, fun run moved possible => reachable.moves possible⟩
  · simp only [receiver, Receiver.State.held]
    split <;> simp
  · rcases books.discarded_closed with none | ⟨closed, stopped⟩
    · exact Or.inl none
    · refine Or.inr ⟨closed, ?_⟩
      simp [receiver, Receiver.State.exit?, stopped]
  · intro finished
    exact ⟨_, books.read_eq finished, fun queue => books.same_drain⟩
  · intro now m move possible
    obtain ⟨l', step, rest⟩ := books.step_move? possible
    exact ⟨l', step, reachable.tail step, rest⟩

/-- A queue of one entry is full when the program reads a second datagram, and the receiver still holds
it when it sees the close: only the first one is handled. -/
theorem reachable_conserves_shutdown :
    let d : Datagram := ⟨.v4 ⟨203, 0, 113, 5⟩ 1234, []⟩
    let run : List (Int × Move) :=
      [(0, .arrive d), (0, .arrive d), (0, .receive), (0, .receive), (0, .receive), (1, .close),
        (1, .receive), (5, .parse), (6, .parse)]
    ∃ (l : Ledger) (effects : List Effect),
      Reachable true 1 l ∧ (initial 1).moves? true run = some (l.state, effects) ∧
      l.state.hasEnded = true ∧ l.state.receiver.received = 2 ∧ l.discarded = [d] ∧
      Pipeline.SameButTimes l.state.pipeline (Pipeline.drain true .initial [(0, d)]).1 := by
  intro d run
  have start : Reachable true 1 (.initial 1) := .refl
  have arrived := (start.tail (.arrive _ d)).tail (.arrive _ d)
  have queued := (arrived.tail (.read rfl rfl)).tail (.enqueue rfl Nat.zero_lt_one)
  have waiting := queued.tail (.read rfl rfl)
  have closed := (waiting.tail (.close _)).tail (.discard rfl rfl)
  have ended := (closed.tail (.handle 5 rfl rfl)).tail (.endParser rfl rfl rfl)
  obtain ⟨received, -, -, -, -, -, shutdown, -⟩ := reachable_conserves ended
  obtain ⟨processed, split, same⟩ := shutdown rfl
  have handled : [d, d] = processed ++ [d] := split
  have one : [d] = processed := List.append_inj_left' handled rfl
  subst one
  exact ⟨_, _, ended, rfl, rfl, received, rfl, (same [(0, d)] rfl).1⟩

end MeshTelemetry.Intake
