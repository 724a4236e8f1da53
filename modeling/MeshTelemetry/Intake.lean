import MeshTelemetry.Pipeline.Drain
import MeshTelemetry.Receiver

/-!
The way of datagrams from the socket to the registry: a receiver and a parser that run side by side,
with a bounded queue between them.

Each of the two does one thing at a time, in any order. The parser ends when the queue is empty and
the receiver has stopped, so that everything in the queue is still handled after a close.
-/

namespace MeshTelemetry

/-- The receiver with its queue, the state that the parser works on, and whether it has ended. -/
structure Intake where
  receiver : Receiver.State
  pipeline : Pipeline.State
  parserEnded : Bool
deriving Repr

namespace Intake

/-- One thing that is reported or written on the way. -/
inductive Effect
  | receiver (n : Receiver.Notice)
  | pipeline (e : Pipeline.Effect)
deriving Repr

/-- A running receiver in front of an empty queue, and a parser that waits for it. -/
def initial (capacity : Nat) : Intake :=
  { receiver := (Receiver.apply (.initial capacity) .start).1
    pipeline := .initial, parserEnded := false }

/-- What can happen next. -/
inductive Move
  /-- A datagram becomes readable. -/
  | arrive (d : Datagram)
  /-- The next read is going to fail. -/
  | failRead (reason : String)
  /-- The socket is closed. -/
  | close
  /-- The receiver reads a datagram, puts one into the queue, or stops. -/
  | receive
  /-- The parser takes a datagram from the queue and handles it, or ends. -/
  | parse
deriving Repr, DecidableEq

/-- Something from outside happens to the receiver. -/
def tell (s : Intake) (e : Receiver.Step) : Intake :=
  { s with receiver := (Receiver.apply s.receiver e).1 }

/-- The receiver does one thing, unless it has to wait. -/
def receive? (s : Intake) : Option (Intake × List Effect) :=
  (Receiver.advance? s.receiver).map fun (next, notices) =>
    ({ s with receiver := next }, notices.map .receiver)

/-- The parser does one thing, unless it has to wait. -/
def parse? (hasSink : Bool) (now : Int) (s : Intake) : Option (Intake × List Effect) :=
  if s.parserEnded then none
  else
    match s.receiver.queue with
    | d :: rest =>
      let (next, effects) := Pipeline.handle hasSink now s.pipeline d
      some ({ s with receiver := { s.receiver with queue := rest }, pipeline := next },
        effects.map .pipeline)
    | [] =>
      if s.receiver.exit?.isSome then
        some ({ s with parserEnded := true }, [.pipeline (.notice .queueEnded)])
      else none

/-- What a move does; none if it is not possible. -/
def move? (hasSink : Bool) (now : Int) (s : Intake) : Move → Option (Intake × List Effect)
  | .arrive d => some (s.tell (.push d), [])
  | .failRead reason => some (s.tell (.pushError reason), [])
  | .close => some (s.tell .close, [])
  | .receive => s.receive?
  | .parse => s.parse? hasSink now

/-- Receiver and parser have both ended. -/
def hasEnded (s : Intake) : Bool :=
  s.receiver.exit?.isSome && s.parserEnded

/-! ## Running until both wait -/

/-- How many things receiver and parser can still do at most. -/
def work (s : Intake) : Nat :=
  2 * s.receiver.work + s.receiver.queue.length + if s.parserEnded then 0 else 1

theorem work_receive? {s next : Intake} {effects : List Effect}
    (h : s.receive? = some (next, effects)) : next.work < s.work := by
  simp only [receive?, Option.map_eq_some_iff, Prod.exists, Prod.mk.injEq] at h
  obtain ⟨inner, notices, step, rfl, rfl⟩ := h
  have := Receiver.work_advance? step
  have := Receiver.queue_advance? step
  simp only [work]
  omega

theorem work_parse? {hasSink : Bool} {now : Int} {s next : Intake} {effects : List Effect}
    (h : s.parse? hasSink now = some (next, effects)) : next.work < s.work := by
  unfold parse? at h
  split at h
  · cases h
  · rename_i running
    split at h
    · rename_i queue
      cases h
      simp [work, Receiver.State.work, queue]
    · split at h
      · cases h
        simp [work, running]
      · cases h

def settle (hasSink : Bool) (now : Int) (s : Intake) : Intake × List Effect :=
  match received : s.receive? with
  | some (next, effects) =>
    have := work_receive? received
    let (last, more) := settle hasSink now next
    (last, effects ++ more)
  | none =>
    match parsed : s.parse? hasSink now with
    | some (next, effects) =>
      have := work_parse? parsed
      let (last, more) := settle hasSink now next
      (last, effects ++ more)
    | none => (s, [])
termination_by s.work

end Intake

end MeshTelemetry
