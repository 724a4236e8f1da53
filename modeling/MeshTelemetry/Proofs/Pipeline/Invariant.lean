import MeshTelemetry.Proofs.Pipeline.Handling

/-!
# The invariant of the registry

The sections of a node come from different responses, which may disagree about its identifier. The
identifier that the stored sections name, taken in the order of priority, is nevertheless the one
under which they are stored: a section of lower priority that names another node was carried by a
response in which a section of higher priority named this one, and that section is still there or has
been replaced by one that names it as well.

`Registry.WellFormed` is what every saved response preserves (`wellFormed_save`), whatever its
sections say, as long as the clock does not go back. `saveAll_wellFormed` is the result for all
registries that can come about, together with what it means for handing stored sections back.
-/

namespace MeshTelemetry

/-! ## The name in merged sections -/

/-- A response that names an identifier names it also over sections that name the same. -/
theorem Response.named?_over {r older : Response} {raw : String} (named : r.named? = some raw)
    (stored : older.named? = some raw) : (r.over older).named? = some raw := by
  obtain ⟨info, measured, near⟩ := r
  obtain ⟨oldInfo, oldMeasured, oldNear⟩ := older
  cases info with
  | some info => exact named
  | none =>
    cases oldInfo with
    | some oldInfo => exact stored
    | none =>
      cases near with
      | some near => exact named
      | none =>
        cases oldNear with
        | some oldNear => exact stored
        | none =>
          -- The response names its node by the statistics, which take the place of the stored ones.
          cases measured with
          | some measured => exact named
          | none => cases named

/-- Sections that name a node are not all missing. -/
theorem Response.present_of_named? {r : Response} {raw : String} (named : r.named? = some raw) :
    r.nodeInfo.isSome ∨ r.statistics.isSome ∨ r.neighbours.isSome := by
  obtain ⟨info, measured, near⟩ := r
  cases info with
  | some info => exact .inl rfl
  | none =>
    cases near with
    | some near => exact .inr (.inr rfl)
    | none =>
      cases measured with
      | some measured => exact .inr (.inl rfl)
      | none => cases named

/-! ## The invariant -/

/-- A node can stand under an identifier, at some time on the clock. -/
structure Node.WellFormed (id : NodeId) (now : Int) (n : Node) : Prop where
  id_eq : n.id = id
  named : n.sections.named? = some id.text
  seen : n.firstSeen ≤ n.lastSeen
  past : n.lastSeen ≤ now

/-- No identifier occurs twice, and every node can stand under its own. -/
structure Registry.WellFormed (now : Int) (r : Registry) : Prop where
  fresh : r.ids.Nodup
  nodes : ∀ {id n}, r.find? id = some n → n.WellFormed id now

theorem Registry.wellFormed_empty (now : Int) : Registry.empty.WellFormed now where
  fresh := List.nodup_nil
  nodes found := by cases found

section

variable {r : Registry} {now later : Int}

/-- The invariant outlasts the time for which it was stated. -/
theorem Registry.WellFormed.mono (sound : r.WellFormed now) (le : now ≤ later) :
    r.WellFormed later where
  fresh := sound.fresh
  nodes found :=
    let node := sound.nodes found
    ⟨node.id_eq, node.named, node.seen, Int.le_trans node.past le⟩

/-- A node that takes over a response that names it can stand where it stood. -/
theorem Node.WellFormed.merge {n : Node} {id : NodeId} {response : Response}
    (sound : n.WellFormed id now) (named : response.named? = some id.text) (le : now ≤ later) :
    (n.merge response later).WellFormed id later where
  id_eq := sound.id_eq
  named := by
    rw [Node.sections_merge]
    exact Response.named?_over named sound.named
  seen := Int.le_trans (Int.le_trans sound.seen sound.past) le
  past := Int.le_refl later

/-- A new node with a response that names it can stand under its identifier. -/
theorem Node.wellFormed_new {id : NodeId} {response : Response}
    (named : response.named? = some id.text) :
    ((Node.new id now).merge response now).WellFormed id now where
  id_eq := rfl
  named := by
    rw [Node.sections_merge, Node.sections_new, Response.over, Response.blank]
    simpa only [Option.or_none] using named
  seen := Int.le_refl now
  past := Int.le_refl now

/-- An update with a response under the identifier that it names keeps the invariant. -/
theorem Registry.WellFormed.update (sound : r.WellFormed now) {id : NodeId} {response : Response}
    (named : response.named? = some id.text) (le : now ≤ later) :
    (r.update id response later).1.WellFormed later where
  fresh := Registry.nodup_ids_put sound.fresh id _
  nodes := by
    intro other n found
    rw [Registry.find?_update] at found
    split at found
    · rename_i here
      subst here
      rw [← Option.some.inj found]
      unfold Registry.update
      dsimp only
      cases stored : r.find? other with
      | none => exact Node.wellFormed_new named
      | some old => exact (sound.nodes stored).merge named le
    · exact (sound.mono le).nodes found

end

namespace Pipeline

/-! ## Saved responses -/

/-- Whatever a response says, saving it keeps the invariant. -/
theorem wellFormed_save (hasSink : Bool) {now later : Int} {s : State}
    (sound : s.registry.WellFormed now) (le : now ≤ later) (source : SocketAddress)
    (r : Response) : (save hasSink later source r s).1.registry.WellFormed later := by
  by_cases named : ∃ id : NodeId, r.named? = some id.text
  · rcases named with ⟨id, named⟩
    rw [save_of_named source named]
    exact sound.update named le
  · rw [save_of_unnamed source (not_exists.mp named)]
    exact sound.mono le

/-- A response with its source and the time at which it is saved. -/
structure Arrival where
  time : Int
  source : SocketAddress
  response : Response

/-- Save responses one after the other. -/
def saveAll (hasSink : Bool) (s : State) (arrivals : List Arrival) : State :=
  arrivals.foldl (fun s a => (save hasSink a.time a.source a.response s).1) s

theorem wellFormed_foldl_save (hasSink : Bool) {now : Int} {s : State}
    (sound : s.registry.WellFormed now) {arrivals : List Arrival}
    (ordered : arrivals.Pairwise fun a b => a.time ≤ b.time)
    (ahead : ∀ a ∈ arrivals, now ≤ a.time) :
    ∃ later, (saveAll hasSink s arrivals).registry.WellFormed later := by
  induction arrivals generalizing now s with
  | nil => exact ⟨now, sound⟩
  | cons a arrivals ih =>
    rw [List.pairwise_cons] at ordered
    exact ih (wellFormed_save hasSink sound (ahead a (List.mem_cons_self ..)) a.source a.response)
      ordered.2 ordered.1

/-- After saving any responses under a clock that does not go back, the registry is well formed. -/
theorem exists_wellFormed_saveAll (hasSink : Bool) {arrivals : List Arrival}
    (ordered : arrivals.Pairwise fun a b => a.time ≤ b.time) :
    ∃ now, (saveAll hasSink .initial arrivals).registry.WellFormed now := by
  cases arrivals with
  | nil => exact ⟨0, Registry.wellFormed_empty 0⟩
  | cons a arrivals =>
    refine wellFormed_foldl_save hasSink (Registry.wellFormed_empty a.time) ordered ?_
    rw [List.forall_mem_cons]
    exact ⟨Int.le_refl _, (List.pairwise_cons.mp ordered).1⟩

/-- In every registry that comes about by saving responses under a clock that does not go back, each
entry is a node of its own identifier of twelve bytes, with some section, first seen no later than
last, and its stored sections name it. Saved as a response, they are stored under the same identifier
and change no section of any entry. -/
theorem saveAll_wellFormed (hasSink : Bool) {arrivals : List Arrival}
    (ordered : arrivals.Pairwise fun a b => a.time ≤ b.time) :
    let s := saveAll hasSink .initial arrivals
    s.registry.ids.Nodup ∧
    ∀ id n, (id, n) ∈ s.registry.entries →
      n.id = id ∧ Text.byteLength id.text = nodeIdLength ∧
      (n.nodeInfo.isSome ∨ n.statistics.isSome ∨ n.neighbours.isSome) ∧
      n.firstSeen ≤ n.lastSeen ∧ n.sections.named? = some id.text ∧
      ∀ (now : Int) (source : SocketAddress),
        let saved := save hasSink now source n.sections s
        (∃ forwarded, saved.2.1 = .stored id forwarded) ∧
          saved.1.registry.sections = s.registry.sections := by
  intro s
  rcases exists_wellFormed_saveAll hasSink ordered with ⟨latest, sound⟩
  refine ⟨sound.fresh, fun id n mem => ?_⟩
  have found : s.registry.find? id = some n := (Registry.find?_eq_some_iff sound.fresh).mpr mem
  have node := sound.nodes found
  refine ⟨node.id_eq, id.length_eq, Response.present_of_named? node.named, node.seen, node.named,
    fun now source => ?_⟩
  rw [save_of_named source node.named]
  exact ⟨⟨_, rfl⟩, Registry.sections_update_self sound.fresh found now⟩

/-- Measured values that name another node than the description they came with. -/
theorem saveAll_wellFormed_conflict :
    let source : SocketAddress := .v4 ⟨203, 0, 113, 5⟩ 1234
    let id : NodeId := ⟨"0000000000aa", by decide⟩
    let measured (nodeId : String) : Statistics := ⟨nodeId, none, none, none, none, []⟩
    let arrivals : List Arrival :=
      [⟨5, source, ⟨none, some (measured id.text), none⟩⟩,
        ⟨5, source, ⟨some ⟨id.text, none, none, none, []⟩, some (measured "0000000000bb"), none⟩⟩,
        ⟨9, source, ⟨none, none, some ⟨"short", []⟩⟩⟩]
    let s := saveAll true .initial arrivals
    arrivals.Pairwise (fun a b => a.time ≤ b.time) ∧
    ∃ n, (id, n) ∈ s.registry.entries ∧ n.statistics.map (·.nodeId) = some "0000000000bb" ∧
      n.sections.named? = some id.text ∧
      (save true 9 source n.sections s).1.registry.sections = s.registry.sections := by
  intro source id measured arrivals s
  have ordered : arrivals.Pairwise (fun a b => a.time ≤ b.time) := by
    simp [arrivals]
  have inside : (id, Node.mk id 5 5 (some ⟨id.text, none, none, none, []⟩)
      (some (measured "0000000000bb")) none) ∈ s.registry.entries :=
    List.mem_singleton.mpr rfl
  obtain ⟨-, sound⟩ := saveAll_wellFormed true ordered
  obtain ⟨-, -, -, -, named, again⟩ := sound id _ inside
  exact ⟨ordered, _, inside, rfl, named, (again 9 source).2⟩

end Pipeline

end MeshTelemetry
