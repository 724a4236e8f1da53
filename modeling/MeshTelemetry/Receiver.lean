import MeshTelemetry.Datagram
import MeshTelemetry.Event

/-!
The receiver moves datagrams from a source into a bounded queue.

It reads one datagram into a buffer that all reads share, of which only the first bytes fit, and
hands a copy of the bytes read to the queue before it reads the next; while the queue is full it
holds the copy and waits. Closing the source stops it for good, and a datagram that it holds then is
dropped. So do a failed read and a queue whose receiving half is gone.

The state is that of the whole set-up: what the source has ready, what the receiver is doing, and
what lies in the queue. `settle` lets the receiver go on until it has to wait.
-/

namespace MeshTelemetry

/-- The most bytes of a datagram that are read. -/
def maxDatagramSize : Nat := 8192

/-- How many datagrams the queue of a collector holds. -/
def queueCapacity : Nat := 400

/-- The buffer that all reads share. -/
structure ReadBuffer where
  bytes : List UInt8
  length_eq : bytes.length = maxDatagramSize
deriving Repr, DecidableEq

namespace ReadBuffer

/-- The buffer before the first read. -/
def blank : ReadBuffer :=
  ⟨List.replicate maxDatagramSize 0, List.length_replicate⟩

/-- How many bytes of a payload fit the buffer. -/
def fitting (payload : List UInt8) : Nat :=
  min payload.length maxDatagramSize

/-- Read a payload into the buffer. Bytes that it does not reach stay as they are. -/
def fill (b : ReadBuffer) (payload : List UInt8) : ReadBuffer where
  bytes := payload.take (fitting payload) ++ b.bytes.drop (fitting payload)
  length_eq := by
    have := b.length_eq
    simp only [fitting, List.length_append, List.length_take, List.length_drop]
    omega

/-- A copy of the first bytes. -/
def front (b : ReadBuffer) (count : Nat) : List UInt8 :=
  b.bytes.take count

/-- The bytes counted by a read are those of the payload, whatever the buffer held before. -/
theorem front_fill (b : ReadBuffer) (payload : List UInt8) :
    (b.fill payload).front (fitting payload) = payload.take maxDatagramSize := by
  have length : (payload.take (fitting payload)).length = fitting payload := by
    simp only [fitting, List.length_take]
    omega
  have whole : payload.take (fitting payload) = payload.take maxDatagramSize := by
    simp only [fitting, List.take_eq_take_iff]
    omega
  calc (b.fill payload).front (fitting payload)
      = (payload.take (fitting payload)).take (fitting payload) := by
        rw [front, fill, List.take_append_of_le_length (Nat.le_of_eq length.symm)]
    _ = payload.take (fitting payload) := List.take_of_length_le (Nat.le_of_eq length)
    _ = payload.take maxDatagramSize := whole

end ReadBuffer

/-- Why the receiver has stopped. -/
inductive ReceiverExit
  | socketClosed
  | readFailed
  | queueClosed
deriving Repr, DecidableEq

def ReceiverExit.name : ReceiverExit → String
  | .socketClosed => "SocketClosed"
  | .readFailed => "ReadFailed"
  | .queueClosed => "QueueClosed"

namespace Receiver

/-- What a read of the source gives. -/
inductive Input
  | datagram (d : Datagram)
  | failure (reason : String)
deriving Repr, DecidableEq

/-- What the receiver is doing. -/
inductive Activity
  | notStarted
  /-- A read has begun. -/
  | reading
  /-- A datagram has been read and is not yet in the queue. -/
  | holding (d : Datagram)
  | stopped (reason : ReceiverExit)
deriving Repr, DecidableEq

/-- What the receiver reports. -/
inductive Notice
  | socketClosed
  | readFailed (reason : String)
  | heldDropped (source : SocketAddress)
  | queueClosed
deriving Repr, DecidableEq

def Notice.event : Notice → Event
  | .socketClosed =>
    { level := .debug, target := "respond_collector::udp::receiver"
      message := "socket closed, receiver stopping", fields := [] }
  | .readFailed reason =>
    { level := .error, target := "respond_collector::udp::receiver"
      message := "recv_from failed, receiver stopping", fields := [("error", reason)] }
  | .heldDropped source =>
    { level := .debug, target := "respond_collector::udp::receiver"
      message := "socket closed while queue full, datagram dropped"
      fields := [("source", source.text)] }
  | .queueClosed =>
    { level := .debug, target := "respond_collector::udp::receiver"
      message := "queue closed, receiver stopping", fields := [] }

/-- The source, the receiver and the queue. -/
structure State where
  /-- How many datagrams the queue can hold. -/
  capacity : Nat
  /-- What the source has ready. -/
  unread : List Input
  closed : Bool
  buffer : ReadBuffer
  activity : Activity
  queue : List Datagram
  /-- The receiving half of the queue is gone. -/
  dropped : Bool
  /-- Reads begun. -/
  reads : Nat
  /-- Datagrams read. The number stands for a word of 64 bits, which fewer than 2^64 datagrams do not
  fill. -/
  received : Nat
deriving Repr, DecidableEq

/-- Nothing has been started, sent or closed. -/
def State.initial (capacity : Nat) : State :=
  { capacity, unread := [], closed := false, buffer := .blank, activity := .notStarted, queue := []
    dropped := false, reads := 0, received := 0 }

/-- Read a datagram, and copy the bytes that have been read out of the buffer. -/
def State.take (s : State) (d : Datagram) (rest : List Input) : State :=
  let buffer := s.buffer.fill d.payload
  let copy : Datagram := ⟨d.source, buffer.front (ReadBuffer.fitting d.payload)⟩
  { s with unread := rest, received := s.received + 1, buffer, activity := .holding copy }

/-- Stop for a reason. -/
def State.stop (s : State) (reason : ReceiverExit) : State :=
  { s with activity := .stopped reason }

/-- Let the receiver do one thing; nothing if it has to wait or does not run. Closing comes before
everything else. -/
def advance? (s : State) : Option (State × List Notice) :=
  match s.activity with
  | .notStarted => none
  | .stopped _ => none
  | .reading =>
    if s.closed then some (s.stop .socketClosed, [.socketClosed])
    else
      match s.unread with
      | [] => none
      | .failure reason :: rest =>
        some ({ s with unread := rest }.stop .readFailed, [.readFailed reason])
      | .datagram d :: rest => some (s.take d rest, [])
  | .holding d =>
    if s.closed then some (s.stop .socketClosed, [.heldDropped d.source])
    else if s.dropped then some (s.stop .queueClosed, [.queueClosed])
    else if s.queue.length < s.capacity then
      some ({ s with queue := s.queue ++ [d], activity := .reading, reads := s.reads + 1 }, [])
    else none

/-- How many things the receiver can still do at most. -/
def State.work (s : State) : Nat :=
  2 * s.unread.length +
    match s.activity with
    | .notStarted => 0
    | .stopped _ => 0
    | .reading => 1
    | .holding _ => 2

theorem work_advance? {s next : State} {notices : List Notice}
    (h : advance? s = some (next, notices)) : next.work < s.work := by
  unfold advance? at h
  cases activity : s.activity with
  | notStarted => simp [activity] at h
  | stopped reason => simp [activity] at h
  | reading =>
    simp only [activity] at h
    split at h
    · cases h
      simp [State.work, State.stop, activity]
    · split at h
      · cases h
      · rename_i unread
        cases h
        simp only [State.work, State.stop, activity, unread, List.length_cons]
        omega
      · rename_i unread
        cases h
        simp only [State.work, State.take, activity, unread, List.length_cons]
        omega
  | holding d =>
    simp only [activity] at h
    split at h
    · cases h
      simp [State.work, State.stop, activity]
    · split at h
      · cases h
        simp [State.work, State.stop, activity]
      · split at h
        · cases h
          simp [State.work, activity]
        · cases h

/-- One thing that the receiver does puts at most one datagram into the queue. -/
theorem queue_advance? {s next : State} {notices : List Notice}
    (h : advance? s = some (next, notices)) : next.queue.length ≤ s.queue.length + 1 := by
  unfold advance? at h
  cases activity : s.activity with
  | notStarted => simp [activity] at h
  | stopped reason => simp [activity] at h
  | reading =>
    simp only [activity] at h
    split at h
    · cases h
      simp [State.stop]
    · split at h
      · cases h
      · cases h
        simp [State.stop]
      · cases h
        simp [State.take]
  | holding d =>
    simp only [activity] at h
    split at h
    · cases h
      simp [State.stop]
    · split at h
      · cases h
        simp [State.stop]
      · split at h
        · cases h
          simp
        · cases h

def settle (s : State) : State × List Notice :=
  match step : advance? s with
  | none => (s, [])
  | some (next, notices) =>
    have := work_advance? step
    let (last, more) := settle next
    (last, notices ++ more)
termination_by s.work

/-! ## What happens from outside -/

/-- A step from outside. -/
inductive Step
  | start
  | push (d : Datagram)
  | pushError (reason : String)
  /-- Take one datagram from the queue. -/
  | recv
  | close
  /-- Drop the receiving half of the queue. -/
  | dropQueue
deriving Repr, DecidableEq

/-- What taking a datagram from the queue gives. -/
inductive Taken
  | datagram (d : Datagram)
  | empty
  /-- The queue is empty, and the receiver will add nothing. -/
  | disconnected
  /-- The receiving half is gone. -/
  | dropped
deriving Repr, DecidableEq

/-- The receiver has stopped. -/
def State.exit? (s : State) : Option ReceiverExit :=
  match s.activity with
  | .stopped reason => some reason
  | _ => none

/-- The state right after a step from outside, before the receiver reacts. -/
def apply (s : State) : Step → State × Option Taken
  | .start =>
    match s.activity with
    | .notStarted => ({ s with activity := .reading, reads := s.reads + 1 }, none)
    | _ => (s, none)
  | .push d => ({ s with unread := s.unread ++ [.datagram d] }, none)
  | .pushError reason => ({ s with unread := s.unread ++ [.failure reason] }, none)
  | .recv =>
    if s.dropped then (s, some .dropped)
    else
      match s.queue with
      | d :: rest => ({ s with queue := rest }, some (.datagram d))
      | [] => (s, some (if s.exit?.isSome then .disconnected else .empty))
  | .close => ({ s with closed := true }, none)
  | .dropQueue => ({ s with dropped := true, queue := [] }, none)

/-- A step from outside and everything the receiver does because of it. -/
def step (s : State) (e : Step) : State × Option Taken × List Notice :=
  let (changed, taken) := apply s e
  let (settled, notices) := settle changed
  (settled, taken, notices)

end Receiver

end MeshTelemetry
