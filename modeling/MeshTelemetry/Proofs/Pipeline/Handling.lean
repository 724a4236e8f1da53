import MeshTelemetry.Pipeline.Drain
import MeshTelemetry.Proofs.Registry

/-!
# What one datagram does

A datagram has one of three fates: it holds no response, its response is refused because it names
no valid node, or the response is stored. `handle_cases` says all that `handle` does in each, and
everything about runs is derived from it.

`Datagram.stored?` is the fate that changes the registry. It is said without the pipeline:
`Datagram.stored?_eq_some_iff` reads it as the response that the datagram decodes to, together with
the text in its first section, if that is twelve bytes long.
-/

namespace MeshTelemetry

/-! ## The name in a response -/

/-- The identifier in the first section present, of the description of the node, the neighbours
and the statistics in this order. -/
def Response.named? (r : Response) : Option String :=
  match r.nodeInfo, r.neighbours, r.statistics with
  | some info, _, _ => some info.nodeId
  | none, some near, _ => some near.nodeId
  | none, none, some measured => some measured.nodeId
  | none, none, none => none

theorem Response.map_snd_candidate (r : Response) : r.candidate.map (·.2) = r.named? := by
  obtain ⟨info, measured, near⟩ := r
  cases info <;> cases near <;> cases measured <;> rfl

/-- The notice about a response that names no valid node. -/
def Response.refusal (r : Response) (source : SocketAddress) : Pipeline.Notice :=
  match r.candidate with
  | none => .noSection source
  | some (part, raw) => .invalidId source part raw

/-- The response of a datagram with the identifier that it is stored under. -/
def Datagram.stored? (d : Datagram) : Option (NodeId × Response) :=
  match d.decode with
  | .error _ => none
  | .ok r =>
    match r.named? with
    | none => none
    | some raw =>
      if valid : Text.byteLength raw = nodeIdLength then some (⟨raw, valid⟩, r) else none

/-- A datagram is stored under the twelve bytes that its response names. -/
theorem Datagram.stored?_eq_some_iff {d : Datagram} {id : NodeId} {r : Response} :
    d.stored? = some (id, r) ↔ d.decode = .ok r ∧ r.named? = some id.text := by
  unfold Datagram.stored?
  cases decoded : d.decode with
  | error e => simp
  | ok found =>
    dsimp only
    cases named : found.named? with
    | none =>
      simp only [reduceCtorEq, Except.ok.injEq, false_iff, not_and]
      rintro rfl
      simp [named]
    | some raw =>
      dsimp only
      constructor
      · intro h
        split at h
        · cases h
          exact ⟨rfl, named⟩
        · cases h
      · rintro ⟨eq, name⟩
        cases eq
        cases named.symm.trans name
        rw [dif_pos id.length_eq]

namespace Pipeline

/-! ## The three fates -/

/-- The node that a response makes of the one that is stored. -/
def mergedNode (s : State) (id : NodeId) (r : Response) (now : Int) : Node :=
  (s.registry.update id r now).2

/-- The state behind a stored response. -/
def storedState (hasSink : Bool) (now : Int) (s : State) (id : NodeId) (r : Response) : State where
  registry := (s.registry.update id r now).1
  counters :=
    if hasSink && (mergedNode s id r now).hasStatistics then
      (s.counters.bump .nodeUpdated).bump .sinkForward
    else s.counters.bump .nodeUpdated

/-- What storing a response leaves behind: a notice if the node is new, the call of the sink, and
a notice about the update. -/
def storedEffects (hasSink : Bool) (now : Int) (s : State) (source : SocketAddress) (id : NodeId)
    (r : Response) : List Effect :=
  let merged := mergedNode s id r now
  (if (s.registry.find? id).isNone then [.notice (.newNode id)] else []) ++
    (forward hasSink id merged).map .write ++
    [.notice (.nodeUpdated id source (hasSink && merged.hasStatistics))]

theorem store_eq (hasSink : Bool) (now : Int) (source : SocketAddress) (id : NodeId)
    (r : Response) (s : State) :
    store hasSink now source id r s =
      (storedState hasSink now s id r, .stored id (hasSink && (mergedNode s id r now).hasStatistics),
        storedEffects hasSink now s source id r) := by
  cases flag : hasSink && (mergedNode s id r now).hasStatistics with
  | true =>
    have calls : forward hasSink id (mergedNode s id r now) = [.node id (mergedNode s id r now)] :=
      if_pos flag
    simp only [mergedNode] at calls flag
    simp [store, storedState, storedEffects, mergedNode, calls, flag, State.count]
  | false =>
    have calls : forward hasSink id (mergedNode s id r now) = [] :=
      if_neg (Bool.eq_false_iff.mp flag)
    simp only [mergedNode] at calls flag
    simp [store, storedState, storedEffects, mergedNode, calls, flag, State.count]

variable {hasSink : Bool} {now : Int} {s : State} {d : Datagram}

/-- A response is stored under the twelve bytes that it names. -/
theorem save_of_named {id : NodeId} {r : Response} (source : SocketAddress)
    (named : r.named? = some id.text) :
    save hasSink now source r s =
      (storedState hasSink now s id r, .stored id (hasSink && (mergedNode s id r now).hasStatistics),
        storedEffects hasSink now s source id r) := by
  rw [← r.map_snd_candidate, Option.map_eq_some_iff] at named
  obtain ⟨⟨part, raw⟩, candidate, rfl⟩ := named
  have parsed : NodeId.parse id.text = .ok id := NodeId.parse_eq_ok_iff.mpr rfl
  unfold save
  simp only [candidate, parsed, store_eq]

/-- A response that names no twelve bytes is refused. -/
theorem save_of_unnamed {r : Response} (source : SocketAddress)
    (unnamed : ∀ id : NodeId, r.named? ≠ some id.text) :
    save hasSink now source r s =
      (s.count .invalidNodeId, .invalidNodeId r.named?, [.notice (r.refusal source)]) := by
  have names := r.map_snd_candidate
  unfold save Response.refusal
  cases candidate : r.candidate with
  | none =>
    rw [candidate] at names
    rw [← names]
    rfl
  | some chosen =>
    obtain ⟨part, raw⟩ := chosen
    rw [candidate] at names
    have long : Text.byteLength raw ≠ nodeIdLength := fun valid => unnamed ⟨raw, valid⟩ names.symm
    rw [← names]
    simp only [NodeId.parse, dif_neg long]
    rfl

theorem handle_of_undecodable {e : DecodeError} (failed : d.decode = .error e) :
    handle hasSink now s d =
      (s.count .decodeFailure, [.notice (.undecodable d e.fault)]) := by
  unfold handle
  rw [failed]

theorem handle_of_refused {r : Response} (decoded : d.decode = .ok r)
    (refused : d.stored? = none) :
    handle hasSink now s d =
      (s.count .invalidNodeId,
        [.notice (.decoded d.source), .notice (r.refusal d.source)]) := by
  have unnamed (id : NodeId) : r.named? ≠ some id.text := by
    intro named
    have stored : d.stored? = some (id, r) := Datagram.stored?_eq_some_iff.mpr ⟨decoded, named⟩
    cases refused.symm.trans stored
  unfold handle
  rw [decoded]
  simp only [save_of_unnamed d.source unnamed]

theorem handle_of_stored {id : NodeId} {r : Response} (stored : d.stored? = some (id, r)) :
    handle hasSink now s d =
      (storedState hasSink now s id r,
        .notice (.decoded d.source) :: storedEffects hasSink now s d.source id r) := by
  obtain ⟨decoded, named⟩ := Datagram.stored?_eq_some_iff.mp stored
  unfold handle
  rw [decoded]
  simp only [save_of_named d.source named]

/-- All that handling one datagram can do. -/
theorem handle_cases (hasSink : Bool) (now : Int) (s : State) (d : Datagram) :
    (∃ e, d.decode = .error e ∧ d.stored? = none ∧
      handle hasSink now s d =
        (s.count .decodeFailure, [.notice (.undecodable d e.fault)])) ∨
    (∃ r, d.decode = .ok r ∧ d.stored? = none ∧
      handle hasSink now s d =
        (s.count .invalidNodeId,
          [.notice (.decoded d.source), .notice (r.refusal d.source)])) ∨
    (∃ id r, d.decode = .ok r ∧ d.stored? = some (id, r) ∧
      handle hasSink now s d =
        (storedState hasSink now s id r,
          .notice (.decoded d.source) :: storedEffects hasSink now s d.source id r)) := by
  cases decoded : d.decode with
  | error e =>
    have unstored : d.stored? = none := by unfold Datagram.stored?; rw [decoded]
    exact Or.inl ⟨e, rfl, unstored, handle_of_undecodable decoded⟩
  | ok r =>
    cases stored : d.stored? with
    | none => exact Or.inr (Or.inl ⟨r, rfl, rfl, handle_of_refused decoded stored⟩)
    | some entry =>
      obtain ⟨id, found⟩ := entry
      have same := (Datagram.stored?_eq_some_iff.mp stored).1
      cases decoded.symm.trans same
      exact Or.inr (Or.inr ⟨id, r, rfl, rfl, handle_of_stored stored⟩)

end Pipeline

end MeshTelemetry
