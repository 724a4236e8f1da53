import MeshTelemetry.Receiver

/-!
# What the receiver can do

`Advances` lists the six things that a receiver can do, each with the condition under which it does
it; `advance?_eq_some_iff` says that these are all. `advance?_eq_none_iff` names the four ways of
standing still. `settle_preserves` packs the induction over a run of the receiver between two steps
from outside: what each of the six things keeps holds where it comes to rest.
-/

namespace MeshTelemetry.Receiver

/-- The datagram that the receiver holds, if it holds one. -/
def State.held (s : State) : List Datagram :=
  match s.activity with
  | .holding d => [d]
  | _ => []

/-- The part of a datagram that fits the buffer. -/
def fitted (d : Datagram) : Datagram :=
  { d with payload := d.payload.take maxDatagramSize }

/-- The datagram that a read leaves in the hands of the receiver has nothing of an earlier one. -/
theorem State.take_eq (s : State) (d : Datagram) (rest : List Input) :
    s.take d rest =
      { s with
        unread := rest
        received := s.received + 1
        buffer := s.buffer.fill d.payload
        activity := .holding (fitted d) } := by
  simp only [State.take, ReadBuffer.front_fill, fitted]

/-- The state behind a datagram that has been put into the queue. -/
def State.enqueue (s : State) (d : Datagram) : State :=
  { s with queue := s.queue ++ [d], activity := .reading, reads := s.reads + 1 }

/-- One thing that the receiver does, with the notices about it. -/
inductive Advances : State → State → List Notice → Prop
  /-- A read ends because the source has been closed. -/
  | readClosed {s : State} : s.activity = .reading → s.closed = true →
    Advances s (s.stop .socketClosed) [.socketClosed]
  /-- A read fails. -/
  | readFailed {s : State} {reason : String} {rest : List Input} : s.activity = .reading →
    s.closed = false → s.unread = .failure reason :: rest →
    Advances s ({ s with unread := rest }.stop .readFailed) [.readFailed reason]
  /-- A read takes a datagram. -/
  | read {s : State} {d : Datagram} {rest : List Input} : s.activity = .reading →
    s.closed = false → s.unread = .datagram d :: rest → Advances s (s.take d rest) []
  /-- A held datagram is dropped because the source has been closed. -/
  | heldDropped {s : State} {d : Datagram} : s.activity = .holding d → s.closed = true →
    Advances s (s.stop .socketClosed) [.heldDropped d.source]
  /-- A held datagram finds no receiving half of the queue. -/
  | queueGone {s : State} {d : Datagram} : s.activity = .holding d → s.closed = false →
    s.dropped = true → Advances s (s.stop .queueClosed) [.queueClosed]
  /-- A held datagram goes into the queue, and the next read begins. -/
  | enqueued {s : State} {d : Datagram} : s.activity = .holding d → s.closed = false →
    s.dropped = false → s.queue.length < s.capacity → Advances s (s.enqueue d) []

theorem advance?_of_advances {s next : State} {notices : List Notice}
    (move : Advances s next notices) : advance? s = some (next, notices) := by
  unfold advance?
  cases move with
  | readClosed reading closed => simp [reading, closed]
  | readFailed reading opened unread => simp [reading, opened, unread]
  | read reading opened unread => simp [reading, opened, unread]
  | heldDropped holding closed => simp [holding, closed]
  | queueGone holding opened gone => simp [holding, opened, gone]
  | enqueued holding opened kept room => simp [holding, opened, kept, room, State.enqueue]

theorem advances_of_advance? {s next : State} {notices : List Notice}
    (h : advance? s = some (next, notices)) : Advances s next notices := by
  unfold advance? at h
  cases activity : s.activity with
  | notStarted => simp [activity] at h
  | stopped reason => simp [activity] at h
  | reading =>
    simp only [activity] at h
    split at h
    · rename_i closed
      cases h
      exact .readClosed activity closed
    · rename_i opened
      rw [Bool.not_eq_true] at opened
      split at h
      · cases h
      · rename_i unread
        cases h
        exact .readFailed activity opened unread
      · rename_i unread
        cases h
        exact .read activity opened unread
  | holding d =>
    simp only [activity] at h
    split at h
    · rename_i closed
      cases h
      exact .heldDropped activity closed
    · rename_i opened
      rw [Bool.not_eq_true] at opened
      split at h
      · rename_i gone
        cases h
        exact .queueGone activity opened gone
      · rename_i kept
        rw [Bool.not_eq_true] at kept
        split at h
        · rename_i room
          cases h
          exact .enqueued activity opened kept room
        · cases h

/-- The receiver does exactly the six things. -/
theorem advance?_eq_some_iff {s next : State} {notices : List Notice} :
    advance? s = some (next, notices) ↔ Advances s next notices :=
  ⟨advances_of_advance?, advance?_of_advances⟩

/-- The receiver stands still before its start, after its end, in a read of an open source with
nothing ready, and with a datagram in front of a full queue. -/
theorem advance?_eq_none_iff {s : State} :
    advance? s = none ↔
      s.activity = .notStarted ∨ (∃ reason, s.activity = .stopped reason) ∨
      (s.activity = .reading ∧ s.closed = false ∧ s.unread = []) ∨
      (∃ d, s.activity = .holding d ∧ s.closed = false ∧ s.dropped = false ∧
        s.capacity ≤ s.queue.length) := by
  unfold advance?
  cases activity : s.activity with
  | notStarted => simp
  | stopped reason => simp
  | reading =>
    cases closed : s.closed with
    | true => simp
    | false =>
      cases unread : s.unread with
      | nil => simp
      | cons input rest => cases input <;> simp
  | holding d =>
    cases closed : s.closed <;> cases dropped : s.dropped <;> simp

/-! ## Between two steps from outside -/

/-- What everything that the receiver does keeps is kept until it comes to rest. -/
theorem settle_preserves {P : State → Prop}
    (kept : ∀ {s next notices}, Advances s next notices → P s → P next) {s : State} (h : P s) :
    P (settle s).1 := by
  fun_induction settle s with
  | case1 s rest => exact h
  | case2 s next notices move smaller last more tail ih =>
    rw [tail] at ih
    exact ih (kept (advances_of_advance? move) h)

theorem advance?_settle (s : State) : advance? (settle s).1 = none := by
  fun_induction settle s with
  | case1 s rest => exact rest
  | case2 s next notices move smaller last more tail ih =>
    rw [tail] at ih
    exact ih

end MeshTelemetry.Receiver
