import MeshTelemetry.Counters
import MeshTelemetry.Datagram
import MeshTelemetry.Registry
import MeshTelemetry.Sink

/-!
The state of the pipeline from datagrams to the registry, and what its work leaves behind: notices
for the log and calls of the sink, in the order in which they happen.
-/

namespace MeshTelemetry.Pipeline

/-- What the pipeline reports. -/
inductive Notice
  /-- A response was read from a datagram. -/
  | decoded (source : SocketAddress)
  /-- A datagram held no response. -/
  | undecodable (datagram : Datagram) (fault : PayloadFault)
  /-- A response had no section. -/
  | noSection (source : SocketAddress)
  /-- The first section of a response had an invalid identifier. -/
  | invalidId (source : SocketAddress) (part : Section) (raw : String)
  /-- A node was seen for the first time. -/
  | newNode (id : NodeId)
  /-- A response was merged, and the node handed to the sink or not. -/
  | nodeUpdated (id : NodeId) (source : SocketAddress) (forwarded : Bool)
  /-- The queue has come to its end. -/
  | queueEnded
deriving Repr

def Notice.event : Notice → Event
  | .decoded source =>
    { level := .trace, target := "respond_collector::pipeline::parser"
      message := "decoded response", fields := [("source", source.text)] }
  | .undecodable d fault =>
    { level := .warn, target := "respond_collector::pipeline::parser"
      message := "unable to decode response"
      fields := [("source", d.source.text), ("error", fault.message),
        ("raw", String.ofList (Text.Hex.encode d.payload))] }
  | .noSection source =>
    { level := .warn, target := "respond_collector::pipeline::updater"
      message := "invalid node id: response has no known section"
      fields := [("source", source.text)] }
  | .invalidId source part raw =>
    { level := .warn, target := "respond_collector::pipeline::updater"
      message := "invalid node id"
      fields := [("source", source.text), ("section", part.key), ("raw_id", raw)] }
  | .newNode id =>
    { level := .debug, target := "registry", message := "new node"
      fields := [("node_id", id.text)] }
  | .nodeUpdated id source forwarded =>
    { level := .debug, target := "respond_collector::pipeline::updater"
      message := "node updated"
      fields := [("node_id", id.text), ("source", source.text),
        ("forwarded", flagText forwarded)] }
  | .queueEnded =>
    { level := .debug, target := "respond_collector::pipeline::parser"
      message := "queue closed, parser stopping", fields := [] }

/-- One thing that the pipeline does besides changing its state. -/
inductive Effect
  | notice (n : Notice)
  | write (w : Write)
deriving Repr

/-- The registry and the counters. -/
structure State where
  registry : Registry
  counters : Counters
deriving Repr

def State.initial : State :=
  ⟨.empty, .zero⟩

/-- Count something. -/
def State.count (s : State) (what : Counter) : State :=
  { s with counters := s.counters.bump what }

/-- The calls of the sink among some effects. -/
def writesOf (effects : List Effect) : List Write :=
  effects.filterMap fun
    | .write w => some w
    | .notice _ => none

/-- The notices among some effects. -/
def noticesOf (effects : List Effect) : List Notice :=
  effects.filterMap fun
    | .notice n => some n
    | .write _ => none

end MeshTelemetry.Pipeline
