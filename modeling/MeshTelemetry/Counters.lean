/-!
What the collector counts while it runs, and how long it has been idle.
-/

namespace MeshTelemetry

/-- The things that are counted. -/
inductive Counter
  /-- A request was written to the socket. -/
  | requestSent
  /-- The socket refused a request. -/
  | sendFailure
  /-- A datagram was read from the socket. -/
  | datagram
  /-- A datagram held no response. -/
  | decodeFailure
  /-- A response named no valid node. -/
  | invalidNodeId
  /-- A response was merged into a node. -/
  | nodeUpdated
  /-- A merged node was handed to the sink. -/
  | sinkForward
  /-- Global aggregates were written. -/
  | globalStatsTick
deriving Repr, DecidableEq

/-- The values of all counters, and the time of the last datagram in milliseconds since the
epoch. The values stand for words of 64 bits, which fewer than 2^64 events of a kind do not fill. -/
structure Counters where
  requestsSent : Nat
  sendFailures : Nat
  datagramsReceived : Nat
  decodeFailures : Nat
  invalidNodeIds : Nat
  nodesUpdated : Nat
  sinkForwards : Nat
  globalStatsTicks : Nat
  lastDatagram : Option Nat
deriving Repr, DecidableEq

namespace Counters

/-- Nothing has happened. -/
def zero : Counters :=
  { requestsSent := 0, sendFailures := 0, datagramsReceived := 0, decodeFailures := 0
    invalidNodeIds := 0, nodesUpdated := 0, sinkForwards := 0, globalStatsTicks := 0
    lastDatagram := none }

/-- The value of a counter. -/
def get (c : Counters) : Counter → Nat
  | .requestSent => c.requestsSent
  | .sendFailure => c.sendFailures
  | .datagram => c.datagramsReceived
  | .decodeFailure => c.decodeFailures
  | .invalidNodeId => c.invalidNodeIds
  | .nodeUpdated => c.nodesUpdated
  | .sinkForward => c.sinkForwards
  | .globalStatsTick => c.globalStatsTicks

/-- Count something that is not a datagram. -/
def bump (c : Counters) : Counter → Counters
  | .requestSent => { c with requestsSent := c.requestsSent + 1 }
  | .sendFailure => { c with sendFailures := c.sendFailures + 1 }
  | .datagram => { c with datagramsReceived := c.datagramsReceived + 1 }
  | .decodeFailure => { c with decodeFailures := c.decodeFailures + 1 }
  | .invalidNodeId => { c with invalidNodeIds := c.invalidNodeIds + 1 }
  | .nodeUpdated => { c with nodesUpdated := c.nodesUpdated + 1 }
  | .sinkForward => { c with sinkForwards := c.sinkForwards + 1 }
  | .globalStatsTick => { c with globalStatsTicks := c.globalStatsTicks + 1 }

/-- Count something that happened at a time in milliseconds; a datagram ends the idle time. -/
def record (c : Counters) (what : Counter) (now : Nat) : Counters :=
  if what = .datagram then { c.bump what with lastDatagram := some now } else c.bump what

/-- The longest idle time that is reported, one hour. -/
def idleCap : Nat := 3600000

/-- Milliseconds since the last datagram, at most an hour, and an hour before the first one. -/
def idleMillis (c : Counters) (now : Nat) : Nat :=
  match c.lastDatagram with
  | none => idleCap
  | some last => min (now - last) idleCap

end Counters

end MeshTelemetry
