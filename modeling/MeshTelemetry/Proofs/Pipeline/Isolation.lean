import MeshTelemetry.Proofs.GlobalStats
import MeshTelemetry.Proofs.Pipeline.Agreement

/-!
# Nodes do not see each other

What a run stores under an identifier and hands to the sink for it depends on the datagrams for this
identifier alone. `sectionsAt_handleAll` says so of the stored sections, and `callsFor_handleAll`
of the calls: they are those of `nodeCalls`, which sees the responses for one node and nothing else.

So a run can be taken apart into one for each node, and put together again in another order as long
as the datagrams for each node keep theirs. Two keyed lists with the same entries under every key are
reorderings of one another (`perm_of_entries_eq`), which carries sections and calls from single nodes
to the whole; the counters only count (`counters_handleAll`). `drainEach_isolates` puts both
together.
-/

namespace MeshTelemetry

/-- A datagram decodes to a response whose first section names the identifier. -/
def Datagram.isFor (id : NodeId) (d : Datagram) : Bool :=
  (d.responseFor id).isSome

theorem Datagram.isFor_iff {id : NodeId} {d : Datagram} : d.isFor id ↔ d.Names id.text := by
  unfold Datagram.isFor Datagram.Names
  rw [Option.isSome_iff_exists]
  refine exists_congr fun r => ?_
  rw [Datagram.responseFor_eq_some_iff, Datagram.stored?_eq_some_iff]

/-- A stored datagram is for the identifier under which it is stored. -/
theorem Datagram.isFor_of_stored {id : NodeId} {d : Datagram} {r : Response}
    (stored : d.stored? = some (id, r)) (key : NodeId) : d.isFor key = decide (key = id) := by
  unfold Datagram.isFor
  by_cases here : key = id
  · subst here
    simp [Datagram.responseFor_eq_some_iff.mpr stored]
  · simp [Datagram.responseFor_of_ne stored here, here]

/-- The datagrams that are not for an identifier have no responses for it. -/
theorem responsesFor_filter_isFor (id : NodeId) (ds : List Datagram) :
    responsesFor id (ds.filter (Datagram.isFor id)) = responsesFor id ds := by
  unfold responsesFor
  rw [List.filterMap_filter]
  refine List.filterMap_congr fun d _ => ?_
  unfold Datagram.isFor
  cases d.responseFor id <;> rfl

/-- A response of a datagram names no valid node. -/
def Datagram.refused (d : Datagram) : Bool :=
  d.decode.toOption.isSome && d.stored?.isNone

/-- Keyed lists with the same entries under every key are reorderings of one another. -/
theorem perm_of_entries_eq {κ α : Type} [DecidableEq κ] {xs ys : List (κ × α)}
    (same : ∀ key, xs.filter (·.1 = key) = ys.filter (·.1 = key)) : xs.Perm ys := by
  classical
  refine List.perm_iff_count.mpr fun entry => ?_
  have counted (zs : List (κ × α)) : zs.count entry = (zs.filter (·.1 = entry.1)).count entry :=
    (List.count_filter (by simp)).symm
  rw [counted xs, counted ys, same]

/-- The entry under an identifier, if no identifier occurs twice. -/
theorem Registry.filter_sections {r : Registry} (fresh : r.ids.Nodup) (id : NodeId) :
    r.sections.filter (·.1 = id) = (r.sectionsAt id).toList.map fun sections => (id, sections) := by
  rw [sectionsAt_eq_lookup]
  rw [ids_eq_map_sections] at fresh
  generalize r.sections = entries at fresh ⊢
  induction entries with
  | nil => rfl
  | cons e rest ih =>
    obtain ⟨key, sections⟩ := e
    obtain ⟨alone, fresh⟩ := List.nodup_cons.mp fresh
    by_cases here : key = id
    · subst here
      have others : rest.filter (fun e => decide (e.1 = key)) = [] := by
        refine List.filter_eq_nil_iff.mpr fun e mem => ?_
        simp only [decide_eq_true_eq]
        rintro rfl
        exact alone (List.mem_map_of_mem (f := (·.1)) mem)
      simp [others]
    · simp [here, ih fresh]

namespace Pipeline

/-! ## The calls for one node -/

/-- The sections of the nodes that some effects hand to the sink under an identifier. -/
def callsFor (id : NodeId) (effects : List Effect) : List Response :=
  ((sinkCalls effects).filter (·.1 = id)).map (·.2)

/-- The sections that are handed to the sink while responses for one node arrive one after the other. -/
def nodeCalls (hasSink : Bool) : Option Response → List Response → List Response
  | _, [] => []
  | older, r :: rs =>
    let merged := r.over (older.getD .blank)
    (if hasSink && merged.statistics.isSome then [merged] else []) ++
      nodeCalls hasSink (some merged) rs

theorem callsFor_append (id : NodeId) (xs ys : List Effect) :
    callsFor id (xs ++ ys) = callsFor id xs ++ callsFor id ys := by
  simp [callsFor]

variable (hasSink : Bool)

/-- A datagram for a node makes the call of its response, and no other datagram calls the sink for
this node. -/
theorem callsFor_handle (now : Int) (s : State) (d : Datagram) (id : NodeId) :
    callsFor id (handle hasSink now s d).2 =
      nodeCalls hasSink (s.registry.sectionsAt id) (d.responseFor id).toList := by
  rcases handle_cases hasSink now s d with
    ⟨e, -, unstored, step⟩ | ⟨r, -, unstored, step⟩ | ⟨key, r, -, stored, step⟩
  · rw [step, Datagram.responseFor_eq_none unstored]
    rfl
  · rw [step, Datagram.responseFor_eq_none unstored]
    rfl
  · have merged : (mergedNode s key r now).sections =
        r.over ((s.registry.sectionsAt key).getD .blank) :=
      Registry.sections_snd_update s.registry key r now
    have statistics : (mergedNode s key r now).hasStatistics =
        (mergedNode s key r now).sections.statistics.isSome := rfl
    rw [step, callsFor, sinkCalls_notice, sinkCalls_storedEffects, statistics, merged]
    by_cases here : key = id
    · subst here
      rw [Datagram.responseFor_eq_some_iff.mpr stored, Option.toList_some, nodeCalls, nodeCalls,
        List.append_nil]
      split <;> simp
    · rw [Datagram.responseFor_of_ne stored (Ne.symm here), Option.toList_none, nodeCalls]
      split <;> simp [here]

theorem nodeCalls_append (older : Option Response) (rs more : List Response) :
    nodeCalls hasSink older (rs ++ more) =
      nodeCalls hasSink older rs ++ nodeCalls hasSink (rs.foldl Response.absorb older) more := by
  induction rs generalizing older with
  | nil => rfl
  | cons r rs ih =>
    simp only [List.cons_append, nodeCalls, ih, List.foldl_cons, Response.absorb, List.append_assoc]

/-- The calls for a node are those that its responses make. -/
theorem callsFor_handleAll (s : State) (run : List (Int × Datagram)) (id : NodeId) :
    callsFor id (handleAll hasSink s run).2 =
      nodeCalls hasSink (s.registry.sectionsAt id) (responsesFor id (run.map (·.2))) := by
  induction run generalizing s with
  | nil => rfl
  | cons x run ih =>
    obtain ⟨now, d⟩ := x
    rw [List.map_cons, responsesFor_cons, nodeCalls_append, ← callsFor_handle hasSink now s d id,
      ← sectionsAt_handle hasSink now s d id, ← ih, ← callsFor_append]
    rfl

/-! ## Counting -/

/-- The counters behind some datagrams and some calls of the sink. -/
def countersAfter (c : Counters) (ds : List Datagram) (calls : Nat) : Counters :=
  { c with
    decodeFailures := c.decodeFailures + ds.countP Datagram.undecodable
    invalidNodeIds := c.invalidNodeIds + ds.countP Datagram.refused
    nodesUpdated := c.nodesUpdated + ds.countP fun d => d.stored?.isSome
    sinkForwards := c.sinkForwards + calls }

theorem countersAfter_countersAfter (c : Counters) (ds more : List Datagram) (calls others : Nat) :
    countersAfter (countersAfter c ds calls) more others =
      countersAfter c (ds ++ more) (calls + others) := by
  simp only [countersAfter, List.countP_append, Nat.add_assoc]

theorem counters_handle_eq (now : Int) (s : State) (d : Datagram) :
    (handle hasSink now s d).1.counters =
      countersAfter s.counters [d] (sinkCalls (handle hasSink now s d).2).length := by
  rcases handle_cases hasSink now s d with
    ⟨e, failed, unstored, step⟩ | ⟨r, decoded, unstored, step⟩ | ⟨id, r, decoded, stored, step⟩
  · have bad : d.undecodable := by unfold Datagram.undecodable; rw [failed]
    have unrefused : d.refused = false := by unfold Datagram.refused; rw [failed]; rfl
    rw [step]
    simp [State.count, Counters.bump, countersAfter, bad, unrefused, unstored, sinkCalls, writesOf]
  · have good : d.undecodable = false := by unfold Datagram.undecodable; rw [decoded]
    have refused : d.refused := by unfold Datagram.refused; rw [decoded, unstored]; rfl
    rw [step]
    simp [State.count, Counters.bump, countersAfter, good, refused, unstored, sinkCalls, writesOf]
  · have good : d.undecodable = false := by unfold Datagram.undecodable; rw [decoded]
    have unrefused : d.refused = false := by unfold Datagram.refused; rw [decoded, stored]; rfl
    rw [step, sinkCalls_notice, sinkCalls_storedEffects]
    unfold storedState
    split <;> simp [Counters.bump, countersAfter, good, unrefused, stored]

theorem counters_handleAll (s : State) (run : List (Int × Datagram)) :
    (handleAll hasSink s run).1.counters =
      countersAfter s.counters (run.map (·.2)) (sinkCalls (handleAll hasSink s run).2).length := by
  induction run generalizing s with
  | nil => rfl
  | cons x run ih =>
    obtain ⟨now, d⟩ := x
    simp only [handleAll, ih, counters_handle_eq, countersAfter_countersAfter, sinkCalls_append,
      List.length_append]
    rfl

/-! ## Whole runs -/

section

variable {xs ys : List (Int × Datagram)}

/-- Runs with the same responses for a node store the same sections of it and hand it to the sink
alike. -/
theorem isolated_of_responsesFor {id : NodeId}
    (same : responsesFor id (xs.map (·.2)) = responsesFor id (ys.map (·.2))) :
    (handleAll hasSink .initial xs).1.registry.sectionsAt id =
        (handleAll hasSink .initial ys).1.registry.sectionsAt id ∧
      callsFor id (handleAll hasSink .initial xs).2 =
        callsFor id (handleAll hasSink .initial ys).2 := by
  rw [sectionsAt_handleAll, sectionsAt_handleAll, callsFor_handleAll, callsFor_handleAll,
    same]
  exact ⟨rfl, rfl⟩

/-- Runs that agree on every node hand the same to the sink, in some order. -/
theorem sinkCalls_perm
    (same : ∀ id, callsFor id (handleAll hasSink .initial xs).2 =
      callsFor id (handleAll hasSink .initial ys).2) :
    (sinkCalls (handleAll hasSink .initial xs).2).Perm
      (sinkCalls (handleAll hasSink .initial ys).2) := by
  -- The key of an entry among those of one key is known, so the entries are their values.
  have keyed (effects : List Effect) (id : NodeId) :
      (sinkCalls effects).filter (·.1 = id) = (callsFor id effects).map fun r => (id, r) := by
    rw [callsFor, List.map_map]
    refine (List.map_id _).symm.trans (List.map_congr_left fun e mem => ?_)
    have key : e.1 = id := by simpa using (List.mem_filter.mp mem).2
    rw [← key]
    rfl
  refine perm_of_entries_eq fun id => ?_
  rw [keyed, keyed, same]

/-- Runs that agree on every node have the same sections, in some order. -/
theorem sections_perm
    (same : ∀ id, (handleAll hasSink .initial xs).1.registry.sectionsAt id =
      (handleAll hasSink .initial ys).1.registry.sectionsAt id) :
    (handleAll hasSink .initial xs).1.registry.sections.Perm
      (handleAll hasSink .initial ys).1.registry.sections := by
  have fresh (run : List (Int × Datagram)) :
      (handleAll hasSink .initial run).1.registry.ids.Nodup :=
    nodup_ids_handleAll hasSink (s := .initial) List.nodup_nil run
  refine perm_of_entries_eq fun id => ?_
  rw [Registry.filter_sections (fresh xs), Registry.filter_sections (fresh ys), same]

end

theorem sinkCalls_drainEach (s : State) (batches : List (List (Int × Datagram))) :
    sinkCalls (drainEach hasSink s batches).2 =
      sinkCalls (handleAll hasSink s batches.flatten).2 := by
  unfold sinkCalls writesOf
  rw [filterMap_drainEach rfl]

theorem callsFor_drainEach (s : State) (batches : List (List (Int × Datagram))) (id : NodeId) :
    callsFor id (drainEach hasSink s batches).2 =
      callsFor id (handleAll hasSink s batches.flatten).2 := by
  unfold callsFor
  rw [sinkCalls_drainEach]

/-- Over an empty registry the sections stored under an identifier, and the nodes handed to the sink
for it, are those of every run with the same datagrams for it, whatever else arrives in either run.
A run of the same datagrams in another order that keeps the order of those for each identifier stores
the same sections, counts the same and has the same aggregates. -/
theorem drainEach_isolates (batches others : List (List (Int × Datagram))) :
    let datagrams := batches.flatten.map (·.2)
    let reordered := others.flatten.map (·.2)
    let run := drainEach hasSink .initial batches
    let other := drainEach hasSink .initial others
    (∀ id, datagrams.filter (Datagram.isFor id) = reordered.filter (Datagram.isFor id) →
      run.1.registry.sectionsAt id = other.1.registry.sectionsAt id ∧
      callsFor id run.2 = callsFor id other.2) ∧
    (datagrams.Perm reordered →
      (∀ id, datagrams.filter (Datagram.isFor id) = reordered.filter (Datagram.isFor id)) →
      (∀ id, run.1.registry.sectionsAt id = other.1.registry.sectionsAt id) ∧
      run.1.registry.sections.Perm other.1.registry.sections ∧
      (sinkCalls run.2).Perm (sinkCalls other.2) ∧
      run.1.counters = other.1.counters ∧
      GlobalStats.ofNodes run.1.registry.snapshot =
        GlobalStats.ofNodes other.1.registry.snapshot) := by
  intro datagrams reordered run other
  have isolated (id : NodeId)
      (same : datagrams.filter (Datagram.isFor id) = reordered.filter (Datagram.isFor id)) :
      run.1.registry.sectionsAt id = other.1.registry.sectionsAt id ∧
        callsFor id run.2 = callsFor id other.2 := by
    simp only [run, other]
    rw [fst_drainEach, fst_drainEach, callsFor_drainEach, callsFor_drainEach]
    refine isolated_of_responsesFor hasSink ?_
    rw [← responsesFor_filter_isFor id (batches.flatten.map _), same, responsesFor_filter_isFor]
  refine ⟨isolated, fun reordering same => ?_⟩
  have stored (id : NodeId) := (isolated id (same id)).1
  have handed (id : NodeId) := (isolated id (same id)).2
  simp only [run, other, callsFor_drainEach] at handed
  have calls : (sinkCalls run.2).Perm (sinkCalls other.2) := by
    simp only [run, other]
    rw [sinkCalls_drainEach, sinkCalls_drainEach]
    exact sinkCalls_perm hasSink handed
  have sections : run.1.registry.sections.Perm other.1.registry.sections := by
    simp only [run, other, fst_drainEach] at stored ⊢
    exact sections_perm hasSink stored
  have counters : run.1.counters = other.1.counters := by
    have lengths := calls.length_eq
    have counted (p : Datagram → Bool) :
        (batches.flatten.map (·.2)).countP p = (others.flatten.map (·.2)).countP p := reordering.countP_eq p
    simp only [run, other] at lengths ⊢
    rw [sinkCalls_drainEach, sinkCalls_drainEach] at lengths
    rw [fst_drainEach, fst_drainEach, counters_handleAll, counters_handleAll, lengths]
    simp only [countersAfter, counted]
  exact ⟨stored, sections, calls, counters, GlobalStats.ofNodes_snapshot_congr sections⟩

/-- Neighbours of one node and statistics of another, in both orders and with a datagram in between
that holds nothing. -/
theorem drainEach_isolates_swapped :
    let source : SocketAddress := .v4 ⟨203, 0, 113, 5⟩ 1234
    let id : NodeId := ⟨"c0ffee000001", by decide⟩
    let around : Datagram :=
      ⟨source, Deflate.storedStream [] (Text.utf8 "[null,null,\x7b\"id\":\"c0ffee000001\"\x7d]")⟩
    let measured : Datagram :=
      ⟨source, Deflate.storedStream [] (Text.utf8 "[null,\x7b\"id\":\"c0ffee000002\"\x7d,null]")⟩
    let empty : Datagram := ⟨source, []⟩
    let batches : List (List (Int × Datagram)) := [[(0, around), (1, measured)]]
    let noisy : List (List (Int × Datagram)) := [[(5, empty), (5, measured)], [(7, around)]]
    let others : List (List (Int × Datagram)) := [[(9, measured), (8, around)]]
    (batches.flatten.map (·.2)).filter (Datagram.isFor id) =
        (noisy.flatten.map (·.2)).filter (Datagram.isFor id) ∧
      (drainEach true .initial batches).1.registry.sectionsAt id =
        (drainEach true .initial noisy).1.registry.sectionsAt id ∧
      (batches.flatten.map (·.2)).Perm (others.flatten.map (·.2)) ∧
      (∀ key, (batches.flatten.map (·.2)).filter (Datagram.isFor key) =
        (others.flatten.map (·.2)).filter (Datagram.isFor key)) ∧
      (drainEach true .initial batches).1.counters =
        (drainEach true .initial others).1.counters := by
  intro source id around measured empty batches noisy others
  have first : around.stored? = some (id, ⟨none, none, some ⟨id.text, []⟩⟩) :=
    stored?_storedStream source (by decide +kernel) (by cbv) rfl
  let foreign : NodeId := ⟨"c0ffee000002", by decide⟩
  have second : measured.stored? =
      some (foreign, ⟨none, some ⟨foreign.text, none, none, none, none, []⟩, none⟩) :=
    stored?_storedStream source (by decide +kernel) (by cbv) rfl
  have third : empty.stored? = none := by cbv
  have distinct : id ≠ foreign := by decide
  have aroundIs (key : NodeId) := Datagram.isFor_of_stored first key
  have measuredIs (key : NodeId) := Datagram.isFor_of_stored second key
  have emptyIs : empty.isFor id = false := by
    rw [Datagram.isFor, Datagram.responseFor_eq_none third, Option.isSome_none]
  have alone : (batches.flatten.map (·.2)).filter (Datagram.isFor id) =
      (noisy.flatten.map (·.2)).filter (Datagram.isFor id) := by
    simp [batches, noisy, aroundIs, measuredIs, emptyIs, distinct]
  have swapped : (batches.flatten.map (·.2)).Perm (others.flatten.map (·.2)) := .swap measured around []
  have kept (key : NodeId) : (batches.flatten.map (·.2)).filter (Datagram.isFor key) =
      (others.flatten.map (·.2)).filter (Datagram.isFor key) := by
    by_cases here : key = id
    · simp [batches, others, aroundIs, measuredIs, here, distinct]
    · have other : around.isFor key = false := by simp [aroundIs, here]
      simp [batches, others, List.filter_cons, other]
  exact ⟨alone, ((drainEach_isolates true batches noisy).1 id alone).1, swapped, kept,
    ((drainEach_isolates true batches others).2 swapped kept).2.2.2.1⟩

end Pipeline

end MeshTelemetry
