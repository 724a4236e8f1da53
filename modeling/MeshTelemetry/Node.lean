import MeshTelemetry.NodeId
import MeshTelemetry.Response.Basic

/-!
What is known about a node: of each section the one that arrived last.
-/

namespace MeshTelemetry

/-- The state of a node. Times are seconds since the epoch. -/
structure Node where
  id : NodeId
  firstSeen : Int
  lastSeen : Int
  nodeInfo : Option NodeInfo
  statistics : Option Statistics
  neighbours : Option Neighbours
deriving Repr

/-- A node of which nothing is known yet. -/
def Node.new (id : NodeId) (now : Int) : Node :=
  { id, firstSeen := now, lastSeen := now, nodeInfo := none, statistics := none
    neighbours := none }

/-- Take over the sections of a response; sections that it lacks stay as they are. -/
def Node.merge (n : Node) (r : Response) (now : Int) : Node :=
  { n with
    lastSeen := now
    nodeInfo := r.nodeInfo.or n.nodeInfo
    statistics := r.statistics.or n.statistics
    neighbours := r.neighbours.or n.neighbours }

/-- Whether statistics have arrived. -/
def Node.hasStatistics (n : Node) : Bool :=
  n.statistics.isSome

/-- The stored sections as a response. -/
def Node.sections (n : Node) : Response :=
  ⟨n.nodeInfo, n.statistics, n.neighbours⟩

end MeshTelemetry
