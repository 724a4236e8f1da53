import MeshTelemetry.Event
import MeshTelemetry.Decimal.Format
import MeshTelemetry.GlobalStats
import MeshTelemetry.Timestamp

/-!
What is handed to a time-series sink, and the sink that writes it to the log.
-/

namespace MeshTelemetry

/-- The names of the series. -/
inductive Measurement
  /-- Statistics of one node. -/
  | node
  /-- Sums over all nodes. -/
  | global
  /-- Counts of firmware releases. -/
  | firmware
  /-- Counts of hardware models. -/
  | model
deriving Repr, DecidableEq

def Measurement.name : Measurement → String
  | .node => "node"
  | .global => "global"
  | .firmware => "firmware"
  | .model => "model"

/-- One call of a sink. -/
inductive Write
  /-- The statistics of a merged node. -/
  | node (id : NodeId) (node : Node)
  /-- One point of a series. -/
  | point (measurement : String) (tags : List (String × String)) (fields : List (String × Float))
    (time : Timestamp)
  /-- A set of counts, one point for each name. -/
  | counts (measurement : String) (tally : Tally)
deriving Repr

namespace Write

/-- A number in a log field. -/
def numberText (x : Float) : String :=
  Decimal.logFormat.text x

/-- What the logging sink makes of a call. A node without statistics leaves no trace. -/
def logged : Write → Option Event
  | .node id n =>
    n.statistics.map fun s =>
      { level := .info, target := "sink", message := "node point"
        fields := [("measurement", Measurement.node.name), ("node_id", id.text),
          ("uptime", numberText (s.uptime.getD 0.0)),
          ("loadavg", numberText (s.loadAverage.getD 0.0)),
          ("clients", toString (s.clients.elim 0 fun c => c.total.toNat))] }
  | .point measurement tags fields time =>
    some { level := .info, target := "sink", message := "point"
           fields := [("measurement", measurement),
             ("tags", mapText (tags.map fun (k, v) => (k, Text.quoted v))),
             ("fields", mapText (fields.map fun (k, x) => (k, numberText x))),
             ("timestamp", time.text)] }
  | .counts measurement tally =>
    some { level := .info, target := "sink", message := "counter map"
           fields := [("measurement", measurement),
             ("counts", mapText (tally.map fun (k, n) => (k, toString n.toNat)))] }

/-- The calls that write the aggregates: one point and two sets of counts, all made even when they
are empty. -/
def ofStats (s : GlobalStats) (time : Timestamp) : List Write :=
  [.point Measurement.global.name [] s.fields time,
   .counts Measurement.firmware.name s.firmwares, .counts Measurement.model.name s.models]

end Write

end MeshTelemetry
