import MeshTelemetry.Node

/-!
The nodes known to the collector, each under its identifier, in the order of their first
appearance.
-/

namespace MeshTelemetry

/-- Known nodes under their identifiers. -/
structure Registry where
  entries : List (NodeId × Node)
deriving Repr

namespace Registry

/-- No nodes. -/
def empty : Registry :=
  ⟨[]⟩

/-- The node under an identifier. -/
def find? (r : Registry) (id : NodeId) : Option Node :=
  (r.entries.find? fun e => e.1 = id).map (·.2)

/-- How many nodes are known. -/
def size (r : Registry) : Nat :=
  r.entries.length

/-- No node is known. -/
def isEmpty (r : Registry) : Bool :=
  r.entries.isEmpty

/-- The identifiers of known nodes. -/
def ids (r : Registry) : List NodeId :=
  r.entries.map (·.1)

/-- All known nodes. -/
def snapshot (r : Registry) : List Node :=
  r.entries.map (·.2)

/-- Put a node under an identifier, in the place of the one that is there. -/
def put (r : Registry) (id : NodeId) (n : Node) : Registry :=
  if id ∈ r.ids then ⟨r.entries.map fun e => if e.1 = id then (id, n) else e⟩
  else ⟨r.entries ++ [(id, n)]⟩

/-- Merge a response into the node under an identifier, which is created if need be. The answer
is the merged node. -/
def update (r : Registry) (id : NodeId) (response : Response) (now : Int) : Registry × Node :=
  let merged := ((r.find? id).getD (.new id now)).merge response now
  (r.put id merged, merged)

/-- All known nodes, sorted by identifier. -/
def sorted (r : Registry) : List Node :=
  r.snapshot.mergeSort fun a b => decide (a.id ≤ b.id)

end Registry

end MeshTelemetry
