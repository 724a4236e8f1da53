import MeshTelemetry.Interval
import MeshTelemetry.Socket
import MeshTelemetry.Ticker

/-!
The schedule of requests: the first at once, then one a period, until it is stopped.

It can be started once. A request is counted when it is known what has become of it. One that was refused
is reported, and the next one is tried as if nothing had happened. The clock is part of the state and
moves in jumps.
-/

namespace MeshTelemetry

namespace RequestSchedule

/-- Why a schedule was not started. -/
inductive StartError
  | alreadyStarted
  | zeroInterval
deriving Repr, DecidableEq

def StartError.message : StartError → String
  | .alreadyStarted => "Collector already started"
  | .zeroInterval => "Invalid collector interval: " ++ (Interval.mk 0).text

/-- What the schedule reports. -/
inductive Notice
  | starting (destination : SocketAddress) (interval : Interval)
  | sendFailed (destination : SocketAddress) (reason : String)
  | stopping
deriving Repr, DecidableEq

def Notice.event : Notice → Event
  | .starting destination interval =>
    { level := .info, target := "respond_collector::udp::request"
      message := "starting request scheduler"
      fields := [("destination", destination.text), ("interval", interval.text)] }
  | .sendFailed destination reason =>
    { level := .warn, target := "respond_collector::udp::request", message := "send_to failed"
      fields := [("destination", destination.text), ("error", reason)] }
  | .stopping =>
    { level := .debug, target := "respond_collector::udp::request"
      message := "request scheduler stopping", fields := [] }

/-- The loop that sends requests. -/
inductive Loop
  | notStarted
  | running (ticker : Ticker)
  | ended
deriving Repr, DecidableEq

/-- The schedule with its clock and its socket. The counts stand for words of 64 bits, which fewer than
2^64 requests do not fill. -/
structure State where
  destination : SocketAddress
  /-- Nanoseconds. -/
  now : Nat
  /-- The period, once started. -/
  period : Option Interval
  loop : Loop
  stopped : Bool
  /-- The socket is closed and refuses to send. -/
  closed : Bool
  /-- The loop has been handed over to be waited for. -/
  handedOver : Bool
  requestsSent : Nat
  sendFailures : Nat
deriving Repr, DecidableEq

def State.initial (destination : SocketAddress) : State :=
  { destination, now := 0, period := none, loop := .notStarted, stopped := false, closed := false
    handedOver := false, requestsSent := 0, sendFailures := 0 }

/-! ## The loop -/

/-- Let the loop go on until it waits or has ended, and tell how many ticks it handles, each with a
request. A stop comes before a tick that is due. -/
def turn (s : State) : State × Nat × List Notice :=
  match s.loop with
  | .notStarted => (s, 0, [])
  | .ended => (s, 0, [])
  | .running ticker =>
    if s.stopped then ({ s with loop := .ended }, 0, [.stopping])
    else
      let (count, last) := ticker.run s.now
      ({ s with loop := .running last }, count, [])

/-- Count a request by what the socket has answered: the number of bytes that were sent, or an error. -/
def count (s : State) : Except IoError Nat → State × List Notice
  | .ok _ => ({ s with requestsSent := s.requestsSent + 1 }, [])
  | .error e =>
    ({ s with sendFailures := s.sendFailures + 1 }, [.sendFailed s.destination e.message])

/-- Count requests one after the other, each by the answer to it. -/
def countAll (s : State) : List (Except IoError Nat) → State × List Notice
  | [] => (s, [])
  | answer :: rest =>
    let (next, notices) := count s answer
    let (last, more) := countAll next rest
    (last, notices ++ more)

/-- What a socket answers to a request as long as nothing but a close makes it refuse one. -/
def State.answer (s : State) : Except IoError Nat :=
  if s.closed then .error .closed else .ok Socket.request.length

/-- Let the loop go on and count its requests, on a host that takes all that an open socket sends. -/
def settle (s : State) : State × List Notice :=
  let (waiting, ticks, notices) := turn s
  let (counted, more) := countAll waiting (List.replicate ticks waiting.answer)
  (counted, notices ++ more)

/-! ## Steps from outside -/

/-- A step from outside. -/
inductive Step
  /-- Start with a period. -/
  | start (period : Interval)
  /-- Let the clock jump by some milliseconds. -/
  | advance (millis : Nat)
  | stop
  /-- Close the socket. -/
  | close
  /-- Take over the loop, to wait for its end. -/
  | takeHandle
deriving Repr, DecidableEq

/-- What a step answers. -/
inductive Reply
  | done
  | refused (e : StartError)
  /-- Whether there was a loop to take over. -/
  | handle (present : Bool)
deriving Repr, DecidableEq

/-- Start the schedule. A second start is refused before the period is looked at. -/
def start (s : State) (period : Interval) : Except StartError State :=
  if s.period.isSome then .error .alreadyStarted
  else if h : 0 < period.nanos then
    .ok { s with period := some period, loop := .running ⟨s.now, period.nanos, h⟩ }
  else .error .zeroInterval

/-- The state right after a step from outside, before the loop reacts. -/
def apply (s : State) : Step → State × Reply × List Notice
  | .start period =>
    match start s period with
    | .error e => (s, .refused e, [])
    | .ok started => (started, .done, [.starting s.destination period])
  | .advance millis => ({ s with now := s.now + millis * Interval.millisecond }, .done, [])
  | .stop => ({ s with stopped := true }, .done, [])
  | .close => ({ s with closed := true }, .done, [])
  | .takeHandle =>
    if s.period.isSome && !s.handedOver then ({ s with handedOver := true }, .handle true, [])
    else (s, .handle false, [])

/-- A step from outside and everything the loop does because of it, on a host that takes all that an open
socket sends. -/
def step (s : State) (e : Step) : State × Reply × List Notice :=
  let (changed, reply, first) := apply s e
  let (settled, more) := settle changed
  (settled, reply, first ++ more)

/-- The loop has ended; unknown until it has been taken over. -/
def State.finished? (s : State) : Option Bool :=
  if s.handedOver then some (s.loop = .ended) else none

end RequestSchedule

end MeshTelemetry
