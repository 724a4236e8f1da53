import MeshTelemetry.Collector

/-!
The life of the program: reading its settings, opening the log and a collector, and ending with a
report. What keeps it from starting is shown as a chain of causes.
-/

namespace MeshTelemetry.Daemon

/-- What could not be done, and why, from the outermost cause inwards. -/
structure Failure where
  context : String
  causes : List String
deriving Repr, DecidableEq

/-- A cause under a first and further margins. -/
def causeLines (first further : String) (cause : String) : List String :=
  match Text.parts '\n' cause.toList with
  | [] => [first]
  | head :: rest =>
    (first ++ String.ofList head) :: rest.map fun line => further ++ String.ofList line

/-- The lines that show a failure. Several causes are numbered from zero. -/
def Failure.report (f : Failure) : List String :=
  let margins := fun i =>
    if f.causes.length ≤ 1 then ("    ", "    ") else ("    " ++ toString i ++ ": ", "       ")
  let causes := f.causes.mapIdx fun i cause => causeLines (margins i).1 (margins i).2 cause
  ("Error: " ++ f.context) ::
    if f.causes.isEmpty then [] else "" :: "Caused by:" :: causes.flatten

/-- The failure to read the settings. -/
def Failure.ofConfig (e : ConfigError) : Failure :=
  let inner := match e with
    | .unreadable reason => [reason]
    | _ => []
  ⟨"failed to load configuration", e.message :: inner⟩

/-- The failure to open the log. -/
def Failure.ofLog (e : IoError) : Failure :=
  ⟨"failed to initialise logging", [e.message]⟩

/-- A failure of the collector while something was done to it. -/
def Failure.ofCollector (context : String) (e : CollectorError) : Failure :=
  let inner := match e with
    | .io e => [e.message]
    | _ => []
  ⟨context, e.message :: inner⟩

/-! ## Start and end -/

/-- What the program reports. -/
inductive Notice
  | starting (config : Config)
  | shutdown
  | finished (nodes : Nat) (counters : Counters) (now uptimeMillis : Nat)
deriving Repr

/-- Datagrams in a second, over whole seconds. -/
def datagramRate (datagrams seconds : Nat) : Float :=
  if seconds = 0 then 0.0 else Float.ofNat datagrams / Float.ofNat seconds

def Notice.event : Notice → Event
  | .starting config =>
    { level := .info, target := "respond_collector", message := "starting respondd collector"
      fields := [("interface", config.collector.interface),
        ("interval_secs", toString config.collector.intervalSeconds),
        ("sink", flagText config.sink.enabled)] }
  | .shutdown =>
    { level := .info, target := "respond_collector", message := "shutdown signal received"
      fields := [] }
  | .finished nodes c now uptime =>
    let number := fun name (n : Nat) => (name, toString n)
    let rate := Decimal.logFormat.text (datagramRate c.datagramsReceived (uptime / 1000))
    { level := .info, target := "respond_collector", message := "collector finished"
      fields := [number "nodes" nodes, number "requests_sent" c.requestsSent,
        number "send_failures" c.sendFailures, number "datagrams_received" c.datagramsReceived,
        number "decode_failures" c.decodeFailures, number "invalid_node_ids" c.invalidNodeIds,
        number "nodes_updated" c.nodesUpdated, ("datagram_rate", rate),
        number "idle_ms" (c.idleMillis now), number "uptime_seconds" (uptime / 1000)] }

/-- Read the settings. -/
def configure (file : ConfigFile) : Except Failure Config :=
  (Config.load file).mapError .ofConfig

/-- Create a collector and start its requests. What is done before a failure counts. -/
def start (host : Host) (config : Config) (now : Nat) :
    List Collector.Effect × Except Failure Collector :=
  let greeting := Collector.Effect.log (Notice.starting config).event
  match Collector.create host config.collector config.sink.enabled now with
  | .error e => ([greeting], .error (.ofCollector "failed to create collector" e))
  | .ok (c, created) =>
    match c.start config.collector.interval with
    | .error e =>
      (greeting :: created, .error (.ofCollector "failed to start request scheduler" e))
    | .ok (running, started) => (greeting :: created ++ started, .ok running)

/-- Close the collector and report on its life. -/
def stop (c : Collector) (startedAt : Nat) : Collector × List Collector.Effect :=
  let (closed, effects) := c.close
  let summary := Notice.finished closed.registry.size closed.counters closed.now
    (closed.now - startedAt)
  (closed, .log Notice.shutdown.event :: effects ++ [.log summary.event])

/-- The log events of an effect; the sink of the program is the log. -/
def events : Collector.Effect → List Event
  | .log e => [e]
  | .write w => w.logged.toList
  | .request _ => []

end MeshTelemetry.Daemon
