import MeshTelemetry.Pipeline.Basic

/-!
Storing a response under the node that it names.

A response without a section or with an invalid identifier is dropped. Any other is merged into its
node, which goes to the sink as soon as statistics of it have arrived.
-/

namespace MeshTelemetry.Pipeline

/-- What became of a response. -/
inductive Outcome
  | stored (id : NodeId) (forwarded : Bool)
  | invalidNodeId (raw : Option String)
deriving Repr, DecidableEq

/-- Drop a response that names no valid node. -/
def drop (s : State) (raw : Option String) (notice : Notice) : State × Outcome × List Effect :=
  (s.count .invalidNodeId, .invalidNodeId raw, [.notice notice])

/-- The sink calls for a merged node. -/
def forward (hasSink : Bool) (id : NodeId) (n : Node) : List Write :=
  if hasSink && n.hasStatistics then [.node id n] else []

/-- Merge a response into a node. -/
def store (hasSink : Bool) (now : Int) (source : SocketAddress) (id : NodeId) (r : Response)
    (s : State) : State × Outcome × List Effect :=
  let isNew := (s.registry.find? id).isNone
  let (registry, merged) := s.registry.update id r now
  let writes := forward hasSink id merged
  let forwarded := !writes.isEmpty
  let updated := State.count ⟨registry, s.counters⟩ .nodeUpdated
  (if forwarded then updated.count .sinkForward else updated, .stored id forwarded,
    (if isNew then [.notice (.newNode id)] else []) ++ writes.map .write ++
      [.notice (.nodeUpdated id source forwarded)])

/-- Handle a response from a source. The first section present decides under which node it is
stored, even if its identifier is invalid. -/
def save (hasSink : Bool) (now : Int) (source : SocketAddress) (r : Response) (s : State) :
    State × Outcome × List Effect :=
  match r.candidate with
  | none => drop s none (.noSection source)
  | some (part, raw) =>
    match NodeId.parse raw with
    | .error e => drop s (some e.raw) (.invalidId source part e.raw)
    | .ok id => store hasSink now source id r s

end MeshTelemetry.Pipeline
