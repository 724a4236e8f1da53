import MeshTelemetry.Json.Basic

/-!
What a node reports about itself.

A response has up to three sections, each of which names its node. The fields that the collector
works with are typed; whatever else a section or its software part holds is kept as it is.
-/

namespace MeshTelemetry

/-- The machine. -/
structure Hardware where
  model : Option String
  processors : Option UInt32
deriving Repr, BEq

/-- The installed firmware. -/
structure Firmware where
  base : Option String
  release : Option String
deriving Repr, BEq

/-- The software of a node; `extra` holds its untyped members. -/
structure Software where
  firmware : Option Firmware
  extra : Json.Members
deriving Repr, BEq

/-- Numbers of connected clients. -/
structure Clients where
  total : UInt32
  wifi : UInt32
  wifi24 : UInt32
  wifi5 : UInt32
deriving Repr, DecidableEq

/-- The section that describes the node. -/
structure NodeInfo where
  nodeId : String
  hostname : Option String
  hardware : Option Hardware
  software : Option Software
  extra : Json.Members
deriving Repr, BEq

/-- The section of measured values. Uptime is in seconds. -/
structure Statistics where
  nodeId : String
  uptime : Option Float
  idleTime : Option Float
  loadAverage : Option Float
  clients : Option Clients
  extra : Json.Members
deriving Repr, BEq

/-- The section about reachable neighbours. -/
structure Neighbours where
  nodeId : String
  extra : Json.Members
deriving Repr, BEq

/-- A decoded response. -/
structure Response where
  nodeInfo : Option NodeInfo
  statistics : Option Statistics
  neighbours : Option Neighbours
deriving Repr, BEq

/-- The name of a section. -/
inductive Section
  | nodeInfo
  | statistics
  | neighbours
deriving Repr, DecidableEq

/-- The key of a section in a response. -/
def Section.key : Section → String
  | .nodeInfo => "nodeinfo"
  | .statistics => "statistics"
  | .neighbours => "neighbours"

/-- The order in which sections are asked for the identifier of the node. -/
def Section.priority : List Section :=
  [.nodeInfo, .neighbours, .statistics]

/-- The identifier in a section, if the section is present. -/
def Response.idIn (r : Response) : Section → Option String
  | .nodeInfo => r.nodeInfo.map (·.nodeId)
  | .statistics => r.statistics.map (·.nodeId)
  | .neighbours => r.neighbours.map (·.nodeId)

/-- The first section present, in order of priority, with the identifier in it. The identifier
counts even if it turns out to be invalid. -/
def Response.candidate (r : Response) : Option (Section × String) :=
  Section.priority.findSome? fun s => (r.idIn s).map fun id => (s, id)

/-- The reported hardware model. -/
def NodeInfo.model (n : NodeInfo) : Option String :=
  n.hardware.bind (·.model)

theorem NodeInfo.model_eq_some_iff {n : NodeInfo} {model : String} :
    n.model = some model ↔ ∃ hardware, n.hardware = some hardware ∧ hardware.model = some model :=
  Option.bind_eq_some_iff

/-- The reported firmware release. -/
def NodeInfo.release (n : NodeInfo) : Option String :=
  n.software.bind fun s => s.firmware.bind (·.release)

theorem NodeInfo.release_eq_some_iff {n : NodeInfo} {release : String} :
    n.release = some release ↔
      ∃ software firmware, n.software = some software ∧ software.firmware = some firmware ∧
        firmware.release = some release := by
  simp [NodeInfo.release, Option.bind_eq_some_iff]

end MeshTelemetry
