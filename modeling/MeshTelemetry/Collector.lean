import MeshTelemetry.Config.Load
import MeshTelemetry.Intake
import MeshTelemetry.RequestSchedule
import MeshTelemetry.StatsWorker

/-!
A collector: a socket, the way of datagrams into the registry, the schedule of requests, and with a
sink also the worker that writes aggregates.

Closing it stops schedule and worker and closes the socket. What is in the queue then is still
handled.
-/

namespace MeshTelemetry

/-- Why a collector could not be configured, created or started. -/
inductive CollectorError
  | config (e : ConfigError)
  | io (e : IoError)
  | address (e : AddressError)
  | start (e : RequestSchedule.StartError)
deriving Repr, DecidableEq

def CollectorError.message : CollectorError → String
  | .config e => "Configuration error: " ++ e.message
  | .io e => "IO error: " ++ e.message
  | .address e => e.message
  | .start e => e.message

/-- The parts of a collector, and its clock in milliseconds since the epoch. -/
structure Collector where
  hasSink : Bool
  now : Nat
  socket : Socket
  intake : Intake
  schedule : RequestSchedule.State
  worker : Option StatsWorker.State
  /-- When the last datagram arrived. -/
  lastDatagram : Option Nat
deriving Repr

namespace Collector

/-- One thing that a collector does. -/
inductive Effect
  | log (e : Event)
  | write (w : Write)
  /-- A request is to leave for an address. -/
  | request (target : SocketAddress)
deriving Repr

/-- What a collector reports as a whole. -/
inductive Notice
  | listening (address destination : SocketAddress) (tasks : Nat)
  | closing
  | receiverStopped (reason : ReceiverExit)
  | stopped
deriving Repr, DecidableEq

def Notice.event : Notice → Event
  | .listening address destination tasks =>
    { level := .info, target := "respond_collector::collector", message := "collector listening"
      fields := [("local", address.text), ("destination", destination.text),
        ("tasks", toString tasks)] }
  | .closing =>
    { level := .info, target := "respond_collector::collector", message := "closing collector"
      fields := [] }
  | .receiverStopped reason =>
    { level := .info, target := "respond_collector::collector", message := "receiver stopped"
      fields := [("exit", reason.name)] }
  | .stopped =>
    { level := .info, target := "respond_collector::collector", message := "collector stopped"
      fields := [] }

/-- An effect on the way of datagrams as one of the collector. -/
def Effect.ofIntake : Intake.Effect → Effect
  | .receiver n => .log n.event
  | .pipeline (.notice n) => .log n.event
  | .pipeline (.write w) => .write w

/-- An effect of the worker as one of the collector. -/
def Effect.ofWorker : StatsWorker.Effect → Effect
  | .notice n => .log n.event
  | .write w => .write w

/-- A notice of the schedule as an effect of the collector. -/
def Effect.ofSchedule (n : RequestSchedule.Notice) : Effect :=
  .log n.event

def counters (c : Collector) : Counters :=
  { c.intake.pipeline.counters with
    requestsSent := c.schedule.requestsSent
    sendFailures := c.schedule.sendFailures
    datagramsReceived := c.intake.receiver.received
    globalStatsTicks := c.worker.elim 0 (·.ticks)
    lastDatagram := c.lastDatagram }

def registry (c : Collector) : Registry :=
  c.intake.pipeline.registry

/-! ## Creation -/

/-- The tasks of a new collector. -/
def taskCount (hasSink : Bool) : Nat :=
  if hasSink then 3 else 2

/-- A collector around a socket that has just been bound. -/
def ofSocket (socket : Socket) (target : SocketAddress) (hasSink : Bool) (now : Nat) :
    Collector :=
  { hasSink, now, socket, intake := .initial queueCapacity
    schedule := .initial target
    worker := if hasSink then some (.initial (now * Interval.millisecond)) else none
    lastDatagram := none }

/-- Create a collector. The address of requests is looked at before the one to listen at. -/
def create (host : Host) (config : CollectorConfig) (hasSink : Bool) (now : Nat) :
    Except CollectorError (Collector × List Effect) := do
  let target ← (resolve host.interfaces config.requestAddress).mapError .address
  let listen ← (resolve host.interfaces config.listenAddress).mapError .address
  let socket ← (Socket.bind host listen).mapError .io
  return (ofSocket socket target hasSink now,
    [.log (Notice.listening socket.address target (taskCount hasSink)).event])

/-! ## Running -/

/-- A step of the schedule, with the requests that are to leave because of it. None of them has been
counted. -/
def stepSchedule (c : Collector) (e : RequestSchedule.Step) :
    Collector × RequestSchedule.Reply × List Effect :=
  let (changed, reply, first) := RequestSchedule.apply c.schedule e
  let (next, ticks, more) := RequestSchedule.turn changed
  ({ c with schedule := next }, reply,
    (first ++ more).map .ofSchedule ++ List.replicate ticks (.request next.destination))

/-- Count a request by what the socket has answered. -/
def countRequest (c : Collector) (answer : Except IoError Nat) : Collector × List Effect :=
  let (next, notices) := RequestSchedule.count c.schedule answer
  ({ c with schedule := next }, notices.map .ofSchedule)

/-- Carry out effects one after the other. The host is asked to send a request unless the socket is
closed. In either case the request is counted before anything else is done. -/
def carryOut {m : Type → Type} [Monad m] (send : SocketAddress → m (Except IoError Nat))
    (perform : Effect → m Unit) (c : Collector) : List Effect → m Collector
  | [] => return c
  | .request target :: rest => do
    let answer ← if c.schedule.closed then pure (.error .closed) else send target
    let (next, effects) := c.countRequest answer
    effects.forM perform
    next.carryOut send perform rest
  | effect :: rest => do
    perform effect
    c.carryOut send perform rest

/-- Send requests once a period, the first at once. -/
def start (c : Collector) (period : Interval) : Except CollectorError (Collector × List Effect) :=
  match c.stepSchedule (.start period) with
  | (_, .refused e, _) => .error (.start e)
  | (next, _, effects) => .ok (next, effects)

def settle (c : Collector) (intake : Intake) : Collector × List Effect :=
  let (last, effects) := intake.settle c.hasSink (c.now / 1000)
  let stopped := match c.intake.receiver.exit?, last.receiver.exit? with
    | none, some reason => [Effect.log (Notice.receiverStopped reason).event]
    | _, _ => []
  ({ c with intake := last }, effects.map .ofIntake ++ stopped)

/-- A datagram arrives. -/
def arrive (c : Collector) (d : Datagram) : Collector × List Effect :=
  { c with lastDatagram := some c.now }.settle (c.intake.tell (.push d))

/-- Reading from the socket fails. -/
def failRead (c : Collector) (reason : String) : Collector × List Effect :=
  c.settle (c.intake.tell (.pushError reason))

/-- Let the worker do something, if there is one. -/
def stepWorker (c : Collector)
    (run : Registry → StatsWorker.State → StatsWorker.State × List StatsWorker.Effect) :
    Collector × List Effect :=
  match c.worker with
  | none => (c, [])
  | some w =>
    let (next, effects) := run c.registry w
    ({ c with worker := some next }, effects.map .ofWorker)

/-- Let the clock move on by some milliseconds. -/
def advance (c : Collector) (millis : Nat) : Collector × List Effect :=
  let (c, _, sent) := { c with now := c.now + millis }.stepSchedule (.advance millis)
  let (c, written) := c.stepWorker fun r w => StatsWorker.advance r w millis
  (c, sent ++ written)

/-- How many milliseconds have to pass until the clock makes the collector do something, if it is waiting
for that. -/
def dueIn? (c : Collector) : Option Nat :=
  let wait := fun (t : Ticker) (now : Nat) =>
    (t.due - now + (Interval.millisecond - 1)) / Interval.millisecond
  let request := match c.schedule.loop with
    | .running t => some (wait t c.schedule.now)
    | _ => none
  let write := c.worker.bind fun w => w.ticker.map fun t => wait t w.now
  match request, write with
  | some a, some b => some (min a b)
  | some a, none => some a
  | none, other => other

/-! ## Closing -/

/-- Stop schedule and worker, close the socket, and handle what is in the queue. -/
def close (c : Collector) : Collector × List Effect :=
  let (c, _, halted) := c.stepSchedule .stop
  let (c, _, _) := c.stepSchedule .close
  let (c, ended) := c.stepWorker StatsWorker.stop
  let (c, handled) := { c with socket := c.socket.close }.settle (c.intake.tell .close)
  (c, .log Notice.closing.event :: halted ++ ended ++ handled ++ [.log Notice.stopped.event])

end Collector

end MeshTelemetry
