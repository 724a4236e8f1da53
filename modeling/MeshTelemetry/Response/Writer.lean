import MeshTelemetry.Json.Writer
import MeshTelemetry.Response.Basic

/-!
The JSON form of a response: typed members in a fixed order, missing ones left out, then the
untyped members. Identifiers and client counters are always written.
-/

namespace MeshTelemetry

open Json (Value)

/-- A member that is left out when its value is missing. -/
def present {α : Type} (key : String) (form : α → Value) (x : Option α) : Json.Members :=
  (x.map fun v => (key, form v)).toList

/-- A count as a value. -/
def countValue (n : UInt32) : Value :=
  .number (.integer n.toNat)

/-- A double as a value. -/
def doubleValue (x : Float) : Value :=
  .number (.float x)

def Hardware.toJson (h : Hardware) : Value :=
  .object (present "model" .text h.model ++ present "nproc" countValue h.processors)

def Firmware.toJson (f : Firmware) : Value :=
  .object (present "base" .text f.base ++ present "release" .text f.release)

def Software.toJson (s : Software) : Value :=
  .object (present "firmware" Firmware.toJson s.firmware ++ s.extra)

def Clients.toJson (c : Clients) : Value :=
  .object [("total", countValue c.total), ("wifi", countValue c.wifi),
    ("wifi24", countValue c.wifi24), ("wifi5", countValue c.wifi5)]

def NodeInfo.toJson (n : NodeInfo) : Value :=
  .object (("node_id", .text n.nodeId) :: present "hostname" .text n.hostname ++
    present "hardware" Hardware.toJson n.hardware ++
    present "software" Software.toJson n.software ++ n.extra)

def Statistics.toJson (s : Statistics) : Value :=
  .object (("node_id", .text s.nodeId) :: present "uptime" doubleValue s.uptime ++
    present "idletime" doubleValue s.idleTime ++ present "loadavg" doubleValue s.loadAverage ++
    present "clients" Clients.toJson s.clients ++ s.extra)

def Neighbours.toJson (n : Neighbours) : Value :=
  .object (("node_id", .text n.nodeId) :: n.extra)

def Response.toJson (r : Response) : Value :=
  .object (present "nodeinfo" NodeInfo.toJson r.nodeInfo ++
    present "statistics" Statistics.toJson r.statistics ++
    present "neighbours" Neighbours.toJson r.neighbours)

end MeshTelemetry
