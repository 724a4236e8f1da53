import Mathlib.Data.List.Perm.Basic
import MeshTelemetry.Proofs.Registry
import MeshTelemetry.Proofs.Tally

/-!
# Aggregates do not depend on an order

Counting two nodes one after the other leaves the same aggregates in either order
(`GlobalStats.add_comm`). Hence aggregates over nodes are the same for every order of the nodes
(`GlobalStats.ofNodes_perm`), and those over a registry depend on its sections alone, in any order
(`GlobalStats.ofNodes_snapshot_congr`).
-/

namespace MeshTelemetry.GlobalStats

/-! ## Nodes -/

/-- The client counters that a node adds, none of them if it reports none. -/
def clientsOf (n : Node) : Clients :=
  (n.statistics.bind (·.clients)).getD ⟨0, 0, 0, 0⟩

/-- What counting a node does to each aggregate. -/
theorem add_eq (s : GlobalStats) (n : Node) :
    s.add n =
      { nodes := s.nodes + 1
        clients := s.clients + (clientsOf n).total.toUInt64
        clientsWifi := s.clientsWifi + (clientsOf n).wifi.toUInt64
        clientsWifi24 := s.clientsWifi24 + (clientsOf n).wifi24.toUInt64
        clientsWifi5 := s.clientsWifi5 + (clientsOf n).wifi5.toUInt64
        firmwares := s.firmwares.bump? (n.nodeInfo.bind (·.release))
        models := s.models.bump? (n.nodeInfo.bind (·.model)) } := by
  unfold add clientsOf
  cases n.statistics.bind (·.clients) <;> cases n.nodeInfo <;>
    simp [addClients, addInfo, Tally.bump?]

/-- Two nodes are counted in either order. -/
theorem add_comm (s : GlobalStats) (a b : Node) : (s.add a).add b = (s.add b).add a := by
  have swap (x y z : UInt64) : x + y + z = x + z + y := by
    rw [UInt64.add_assoc, UInt64.add_comm y, ← UInt64.add_assoc]
  simp only [add_eq, Tally.bump?_comm (b.nodeInfo.bind _) (a.nodeInfo.bind _),
    swap _ (clientsOf b).total.toUInt64, swap _ (clientsOf b).wifi.toUInt64,
    swap _ (clientsOf b).wifi24.toUInt64, swap _ (clientsOf b).wifi5.toUInt64]

/-- Aggregates over nodes are the same for every order of the nodes. -/
theorem ofNodes_perm {xs ys : List Node} (same : xs.Perm ys) : ofNodes xs = ofNodes ys :=
  same.foldl_eq' (fun a _ b _ s => add_comm s a b) zero

/-! ## Registries -/

/-- A node that is known by one response. -/
def nodeOf (entry : NodeId × Response) : Node :=
  (Node.new entry.1 0).merge entry.2 0

/-- Of a node only its sections count. -/
theorem add_nodeOf (s : GlobalStats) (id : NodeId) (n : Node) :
    s.add (nodeOf (id, n.sections)) = s.add n := by
  simp only [add_eq, clientsOf, nodeOf, Node.merge, Node.new, Node.sections, Option.or_none]

theorem ofNodes_snapshot (r : Registry) : ofNodes r.snapshot = ofNodes (r.sections.map nodeOf) := by
  unfold ofNodes Registry.snapshot Registry.sections
  rw [List.map_map, List.foldl_map, List.foldl_map]
  refine congrArg (fun f => List.foldl f zero r.entries) (funext fun s => funext fun e => ?_)
  exact (add_nodeOf s e.1 e.2).symm

/-- Registries with the same sections in any order have the same aggregates. -/
theorem ofNodes_snapshot_congr {r other : Registry} (same : r.sections.Perm other.sections) :
    ofNodes r.snapshot = ofNodes other.snapshot := by
  rw [ofNodes_snapshot, ofNodes_snapshot]
  exact ofNodes_perm (same.map nodeOf)

end MeshTelemetry.GlobalStats
