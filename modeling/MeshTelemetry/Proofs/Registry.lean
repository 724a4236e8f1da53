import Mathlib.Data.List.Nodup
import MeshTelemetry.Registry

/-!
# The registry as a map

What each operation does to the look-up under an identifier and to the list of identifiers. The
registry is also looked at without the times of its nodes: `Registry.sectionsAt` under one
identifier, `Registry.sections` as a whole. Two registries with the same sections take an update
with the same response to registries with the same sections, whatever the clock shows.

A snapshot is the node under an identifier, if there is one, and all others (`Registry.perm_snapshot`).
-/

namespace MeshTelemetry

/-- A response without sections. -/
def Response.blank : Response :=
  ⟨none, none, none⟩

/-- The sections of a response, and where it lacks one, that of an older response. -/
def Response.over (r older : Response) : Response :=
  ⟨r.nodeInfo.or older.nodeInfo, r.statistics.or older.statistics,
    r.neighbours.or older.neighbours⟩

theorem Response.over_self (r : Response) : r.over r = r := by
  simp only [Response.over, Option.or_self]

@[simp]
theorem Node.sections_new (id : NodeId) (now : Int) : (Node.new id now).sections = .blank := rfl

@[simp]
theorem Node.sections_merge (n : Node) (r : Response) (now : Int) :
    (n.merge r now).sections = r.over n.sections := rfl

namespace Registry

/-- The stored sections under an identifier. -/
def sectionsAt (r : Registry) (id : NodeId) : Option Response :=
  (r.find? id).map Node.sections

/-- The entries without their times. -/
def sections (r : Registry) : List (NodeId × Response) :=
  r.entries.map fun e => (e.1, e.2.sections)

/-! ## Look-up -/

theorem mem_ids_iff {r : Registry} {id : NodeId} : id ∈ r.ids ↔ ∃ n, r.find? id = some n := by
  simp only [ids, List.mem_map, find?, Option.map_eq_some_iff]
  constructor
  · rintro ⟨e, inside, rfl⟩
    have found : (r.entries.find? fun x => decide (x.1 = e.1)).isSome := by
      simp only [List.find?_isSome, decide_eq_true_eq]
      exact ⟨e, inside, rfl⟩
    obtain ⟨x, hx⟩ := Option.isSome_iff_exists.mp found
    exact ⟨x.2, x, hx, rfl⟩
  · rintro ⟨n, x, found, rfl⟩
    exact ⟨x, List.mem_of_find?_eq_some found, by simpa using List.find?_some found⟩

/-- A node that has been put under an identifier is found there, and every other identifier has
the node that it had. -/
theorem find?_put (r : Registry) (id other : NodeId) (n : Node) :
    (r.put id n).find? other = if other = id then some n else r.find? other := by
  unfold put
  split
  · rename_i inside
    have same : ((fun e : NodeId × Node => decide (e.1 = other)) ∘
        fun e => if e.1 = id then (id, n) else e) = fun e => decide (e.1 = other) := by
      funext e
      by_cases h : e.1 = id <;> simp [h]
    simp only [find?, List.find?_map, same, Option.map_map]
    split
    · rename_i eq
      subst eq
      obtain ⟨old, found⟩ := mem_ids_iff.mp inside
      simp only [find?, Option.map_eq_some_iff] at found ⊢
      obtain ⟨x, hx, -⟩ := found
      have key : x.1 = other := by simpa using List.find?_some hx
      exact ⟨x, hx, by simp [key]⟩
    · rename_i ne
      cases found : r.entries.find? fun e => decide (e.1 = other) with
      | none => rfl
      | some x =>
        have key : x.1 = other := by simpa using List.find?_some found
        simp [key, ne]
  · rename_i outside
    simp only [find?, List.find?_append]
    by_cases eq : other = id
    · subst eq
      have absent : (r.entries.find? fun e => decide (e.1 = other)) = none := by
        rw [List.find?_eq_none]
        intro e inside
        simp only [decide_eq_true_eq]
        intro key
        exact outside (key ▸ List.mem_map_of_mem inside)
      simp [absent]
    · simp [eq, Ne.symm eq]

/-- Putting a node adds its identifier at the end, unless it is there already. -/
theorem ids_put (r : Registry) (id : NodeId) (n : Node) :
    (r.put id n).ids = if id ∈ r.ids then r.ids else r.ids ++ [id] := by
  unfold put
  split
  · simp only [ids, List.map_map]
    refine List.map_congr_left fun e _ => ?_
    by_cases h : e.1 = id <;> simp [h]
  · simp [ids]

theorem nodup_ids_put {r : Registry} (fresh : r.ids.Nodup) (id : NodeId) (n : Node) :
    (r.put id n).ids.Nodup := by
  rw [ids_put]
  split
  · exact fresh
  · rename_i outside
    rw [List.nodup_append]
    refine ⟨fresh, by simp, ?_⟩
    rintro x inside y hy rfl
    simp only [List.mem_singleton] at hy
    exact outside (hy ▸ inside)

/-- If no identifier occurs twice, the entries are what look-ups find. -/
theorem find?_eq_some_iff {r : Registry} (fresh : r.ids.Nodup) {id : NodeId} {n : Node} :
    r.find? id = some n ↔ (id, n) ∈ r.entries := by
  constructor
  · intro found
    rcases Option.map_eq_some_iff.mp found with ⟨e, first, rfl⟩
    have key : e.1 = id := by simpa using List.find?_some first
    rw [← key]
    exact List.mem_of_find?_eq_some first
  · intro mem
    rcases mem_ids_iff.mp (List.mem_map_of_mem (f := (·.1)) mem) with ⟨other, found⟩
    rcases Option.map_eq_some_iff.mp found with ⟨e, first, rfl⟩
    have key : e.1 = id := by simpa using List.find?_some first
    have same : e = (id, n) :=
      List.inj_on_of_nodup_map fresh (List.mem_of_find?_eq_some first) mem key
    rw [found, same]

/-! ## One node and all others -/

/-- The nodes under all other identifiers. -/
def others (r : Registry) (id : NodeId) : List Node :=
  (r.entries.filter fun e => e.1 ≠ id).map (·.2)

/-- If no identifier occurs twice, a snapshot holds the node under an identifier, if there is one, and
all others. -/
theorem perm_snapshot {r : Registry} (fresh : r.ids.Nodup) (id : NodeId) :
    r.snapshot.Perm ((r.find? id).toList ++ r.others id) := by
  obtain ⟨entries⟩ := r
  unfold snapshot find? others
  induction entries with
  | nil => exact .nil
  | cons e entries ih =>
    obtain ⟨outside, fresh⟩ := List.nodup_cons.mp fresh
    by_cases here : e.1 = id
    · have kept : entries.filter (fun e => !decide (e.1 = id)) = entries := by
        refine List.filter_eq_self.mpr fun other mem => ?_
        have apart : other.1 ≠ id := fun same =>
          outside (List.mem_map.mpr ⟨other, mem, same.trans here.symm⟩)
        simp [apart]
      simp [here, kept]
    · simpa [here] using ((ih fresh).cons e.2).trans List.perm_middle.symm

/-- Putting a node under an identifier leaves all others alone. -/
theorem others_put (r : Registry) (id : NodeId) (n : Node) :
    (r.put id n).others id = r.others id := by
  unfold put
  split
  · simp only [others]
    induction r.entries with
    | nil => rfl
    | cons e entries ih => by_cases here : e.1 = id <;> simp_all
  · simp [others]

theorem perm_snapshot_put {r : Registry} (fresh : r.ids.Nodup) (id : NodeId) (n : Node) :
    (r.put id n).snapshot.Perm (n :: r.others id) := by
  have perm := perm_snapshot (nodup_ids_put fresh id n) id
  rwa [find?_put, if_pos rfl, others_put] at perm

theorem size_put {r : Registry} (fresh : r.ids.Nodup) (id : NodeId) (n : Node) :
    (r.put id n).size = (r.others id).length + 1 := by
  have length := (perm_snapshot_put fresh id n).length_eq
  rwa [snapshot, List.length_map] at length

/-! ## Sections -/

theorem sectionsAt_eq_lookup (r : Registry) (id : NodeId) :
    r.sectionsAt id = (r.sections.find? fun e => e.1 = id).map (·.2) := by
  simp only [sectionsAt, find?, sections, List.find?_map, Option.map_map]
  rfl

theorem ids_eq_map_sections (r : Registry) : r.ids = r.sections.map (·.1) := by
  simp [ids, sections, List.map_map, Function.comp_def]

theorem sections_put (r : Registry) (id : NodeId) (n : Node) :
    (r.put id n).sections =
      if id ∈ r.ids then r.sections.map fun e => if e.1 = id then (id, n.sections) else e
      else r.sections ++ [(id, n.sections)] := by
  unfold put
  split
  · simp only [sections, List.map_map]
    refine List.map_congr_left fun e _ => ?_
    by_cases h : e.1 = id <;> simp [h]
  · simp [sections]

/-- The merged node carries the sections of the response over those that were stored. -/
theorem sections_snd_update (r : Registry) (id : NodeId) (response : Response) (now : Int) :
    (r.update id response now).2.sections = response.over ((r.sectionsAt id).getD .blank) := by
  simp only [update, Node.sections_merge, sectionsAt]
  cases r.find? id <;> rfl

theorem nodeInfo_snd_update (r : Registry) (id : NodeId) (response : Response) (now : Int) :
    (r.update id response now).2.nodeInfo =
      response.nodeInfo.or ((r.find? id).bind (·.nodeInfo)) := by
  cases found : r.find? id <;> simp [update, found, Node.merge, Node.new]

theorem statistics_snd_update (r : Registry) (id : NodeId) (response : Response) (now : Int) :
    (r.update id response now).2.statistics =
      response.statistics.or ((r.find? id).bind (·.statistics)) := by
  cases found : r.find? id <;> simp [update, found, Node.merge, Node.new]

theorem find?_update (r : Registry) (id other : NodeId) (response : Response) (now : Int) :
    (r.update id response now).1.find? other =
      if other = id then some (r.update id response now).2 else r.find? other :=
  find?_put r id other _

theorem sectionsAt_update (r : Registry) (id other : NodeId) (response : Response) (now : Int) :
    (r.update id response now).1.sectionsAt other =
      if other = id then some (response.over ((r.sectionsAt id).getD .blank))
      else r.sectionsAt other := by
  rw [sectionsAt, find?_update]
  split
  · rw [Option.map_some, sections_snd_update]
  · rfl

theorem ids_update (r : Registry) (id : NodeId) (response : Response) (now : Int) :
    (r.update id response now).1.ids = if id ∈ r.ids then r.ids else r.ids ++ [id] :=
  ids_put r id _

/-- What an update does to the sections depends on the sections alone. -/
theorem sections_update_congr {r other : Registry} (same : r.sections = other.sections)
    (id : NodeId) (response : Response) (now later : Int) :
    (r.update id response now).1.sections = (other.update id response later).1.sections ∧
      (r.update id response now).2.sections = (other.update id response later).2.sections := by
  have merged : (r.update id response now).2.sections =
      (other.update id response later).2.sections := by
    simp only [sections_snd_update, sectionsAt_eq_lookup, same]
  refine ⟨?_, merged⟩
  simp only [update] at merged ⊢
  rw [sections_put, sections_put, merged, ids_eq_map_sections, ids_eq_map_sections, same]

/-- Merging the sections of an entry into it once more changes no sections. -/
theorem sections_update_self {r : Registry} (fresh : r.ids.Nodup) {id : NodeId} {n : Node}
    (found : r.find? id = some n) (now : Int) :
    (r.update id n.sections now).1.sections = r.sections := by
  have merged : (r.update id n.sections now).2.sections = n.sections := by
    rw [sections_snd_update, sectionsAt, found]
    exact n.sections.over_self
  simp only [update] at merged ⊢
  rw [sections_put, if_pos (mem_ids_iff.mpr ⟨n, found⟩), merged]
  refine (List.map_congr_left fun e mem => ?_).trans (List.map_id r.sections)
  rcases List.mem_map.mp mem with ⟨⟨key, other⟩, inside, rfl⟩
  by_cases here : key = id
  · subst here
    cases (find?_eq_some_iff fresh).mpr inside ▸ found
    exact if_pos rfl
  · exact if_neg here

end Registry

end MeshTelemetry
