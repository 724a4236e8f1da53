import MeshTelemetry.Proofs.Pipeline.LastWriter
import MeshTelemetry.Proofs.Response.RoundTrip

/-!
# What is handed to the sink

Whether a stored response is handed to the sink depends on all responses for its node so far: as soon
as one of them has carried statistics, the merged node has statistics, and it keeps them.
`forwardedAt?` says this of a position in a list of datagrams without the registry. `stored_at` is
what the step at this position does, and `drainEach_forwards` is the result for whole runs: which calls
of the sink there are, with which nodes, and what changes if there is no sink.
-/

namespace MeshTelemetry.Pipeline

/-! ## The datagrams that are forwarded -/

/-- Statistics for an identifier have arrived with some datagrams. -/
def measured (id : NodeId) (ds : List Datagram) : Bool :=
  (responsesFor id ds).any fun r => r.statistics.isSome

/-- The identifiers that some datagrams are stored under, in the order of the datagrams. -/
def storedIds (ds : List Datagram) : List NodeId :=
  ds.filterMap fun d => d.stored?.map (·.1)

theorem storedIds_singleton (d : Datagram) : storedIds [d] = (d.stored?.map (·.1)).toList := by
  rw [storedIds, List.filterMap_cons, List.filterMap_nil]
  cases d.stored? <;> rfl

/-- The identifier under which the datagram at a position is stored. -/
def storedAt? (ds : List Datagram) (i : Nat) : Option NodeId :=
  ds[i]?.bind fun d => d.stored?.map (·.1)

/-- The identifier under which the datagram at a position is stored, if by then statistics for it
have arrived. -/
def forwardedAt? (ds : List Datagram) (i : Nat) : Option NodeId :=
  (storedAt? ds i).filter fun id => measured id (ds.take (i + 1))

theorem isSome_lastCarried {α : Type} (part : Response → Option α) (rs : List Response) :
    (lastCarried part rs).isSome = rs.any fun r => (part r).isSome := by
  induction rs with
  | nil => rfl
  | cons r rs ih => rw [lastCarried_cons, Option.isSome_or, ih, List.any_cons, Bool.or_comm]

/-- What has arrived has arrived for good. -/
theorem measured_mono {id : NodeId} {ds : List Datagram} {i j : Nat} (le : i ≤ j)
    (arrived : measured id (ds.take i)) : measured id (ds.take j) := by
  have longer : ds.take j = ds.take i ++ (ds.take j).drop i := by
    conv_lhs => rw [← List.take_append_drop i (ds.take j), List.take_take, Nat.min_eq_left le]
  rw [longer]
  unfold measured responsesFor at arrived ⊢
  rw [List.filterMap_append, List.any_append, arrived, Bool.true_or]

/-- Behind a forwarded datagram every other one that is stored for the same node is forwarded. -/
theorem forwardedAt?_mono {ds : List Datagram} {i j : Nat} {id : NodeId}
    (forwarded : forwardedAt? ds i = some id) (le : i ≤ j) (stored : storedAt? ds j = some id) :
    forwardedAt? ds j = some id := by
  unfold forwardedAt? at forwarded ⊢
  have arrived := (Option.filter_eq_some_iff.mp forwarded).2
  exact Option.filter_eq_some_iff.mpr ⟨stored, measured_mono (Nat.succ_le_succ le) arrived⟩

/-! ## The step at a position -/

section

variable (hasSink : Bool) {run : List (Int × Datagram)} {i : Nat} {now : Int} {d : Datagram}

/-- The sections under an identifier at a position come from the datagrams before it. -/
theorem sectionsAt_stateAt (run : List (Int × Datagram)) (i : Nat) (id : NodeId) :
    (stateAt hasSink .initial run i).registry.sectionsAt id =
      if responsesFor id ((run.map (·.2)).take i) = [] then none
      else some (Response.latest (responsesFor id ((run.map (·.2)).take i))) := by
  unfold stateAt
  rw [sectionsAt_handleAll, List.map_take]
  exact Response.foldl_absorb_none _

theorem responsesFor_take_succ_ne_nil {ds : List Datagram} {id : NodeId} {r : Response}
    (here : ds[i]? = some d) (stored : d.stored? = some (id, r)) :
    responsesFor id (ds.take (i + 1)) ≠ [] := by
  obtain ⟨decoded, named⟩ := Datagram.stored?_eq_some_iff.mp stored
  refine responsesFor_ne_nil_iff.mpr ⟨d, ?_, r, decoded, named⟩
  rw [List.take_add_one, here]
  exact List.mem_append_right _ (List.mem_singleton_self d)

/-- A datagram that is stored leaves the merged node in the registry, whose sections are the last
ones carried so far. -/
theorem stored_at {id : NodeId} {r : Response} (here : run[i]? = some (now, d))
    (stored : d.stored? = some (id, r)) :
    let merged := mergedNode (stateAt hasSink .initial run i) id r now
    (stateAt hasSink .initial run (i + 1)).registry.find? id = some merged ∧
    merged.sections = .latest (responsesFor id ((run.map (·.2)).take (i + 1))) ∧
    merged.hasStatistics = measured id ((run.map (·.2)).take (i + 1)) := by
  intro merged
  have found : (stateAt hasSink .initial run (i + 1)).registry.find? id = some merged := by
    rw [stateAt_succ here, handle_of_stored stored]
    exact (Registry.find?_update _ id id r now).trans (if_pos rfl)
  have received : (run.map (·.2))[i]? = some d := by rw [List.getElem?_map, here]; rfl
  have sections : merged.sections =
      .latest (responsesFor id ((run.map (·.2)).take (i + 1))) := by
    have looked := sectionsAt_stateAt hasSink run (i + 1) id
    rw [Registry.sectionsAt, found, if_neg (responsesFor_take_succ_ne_nil received stored)] at looked
    exact Option.some.inj looked
  refine ⟨found, sections, ?_⟩
  change merged.sections.statistics.isSome = _
  rw [sections]
  exact isSome_lastCarried _ _

theorem effectsAt_of_stored {id : NodeId} {r : Response} (here : run[i]? = some (now, d))
    (stored : d.stored? = some (id, r)) :
    effectsAt hasSink .initial run i = .notice (.decoded d.source) ::
      storedEffects hasSink now (stateAt hasSink .initial run i) d.source id r := by
  unfold effectsAt
  rw [here, Option.elim_some, handle_of_stored stored]

theorem storedAt?_of_stored {id : NodeId} {r : Response} (here : run[i]? = some (now, d))
    (stored : d.stored? = some (id, r)) : storedAt? (run.map (·.2)) i = some id := by
  simp [storedAt?, here, stored]

theorem storedAt?_of_unstored (here : run[i]? = some (now, d)) (unstored : d.stored? = none) :
    storedAt? (run.map (·.2)) i = none := by
  simp [storedAt?, here, unstored]

theorem isSome_forwardedAt? {id : NodeId} {r : Response} (here : run[i]? = some (now, d))
    (stored : d.stored? = some (id, r)) :
    (forwardedAt? (run.map (·.2)) i).isSome = measured id ((run.map (·.2)).take (i + 1)) := by
  rw [forwardedAt?, storedAt?_of_stored here stored, Option.filter_some]
  split <;> simp_all

end

/-! ## The calls of a run -/

/-- The identifier that an update was for, and whether it says that the node was forwarded. -/
def Effect.update? : Effect → Option (NodeId × Bool)
  | .notice (.nodeUpdated id _ forwarded) => some (id, forwarded)
  | _ => none

/-- The updates among some effects. -/
def updatesOf (effects : List Effect) : List (NodeId × Bool) :=
  effects.filterMap Effect.update?

/-- A datagram that is not stored neither calls the sink nor updates a node. -/
theorem quiet_of_unstored (hasSink : Bool) (now : Int) (s : State) {d : Datagram}
    (unstored : d.stored? = none) :
    writesOf (handle hasSink now s d).2 = [] ∧ updatesOf (handle hasSink now s d).2 = [] := by
  rcases handle_cases hasSink now s d with
    ⟨e, -, -, step⟩ | ⟨r, -, -, step⟩ | ⟨id, r, -, stored, step⟩
  · rw [step]
    exact ⟨rfl, rfl⟩
  · rw [step]
    refine ⟨rfl, ?_⟩
    unfold Response.refusal
    split <;> rfl
  · cases unstored.symm.trans stored

theorem writesOf_storedEffects (hasSink : Bool) (now : Int) (s : State) (source : SocketAddress)
    (id : NodeId) (r : Response) :
    writesOf (storedEffects hasSink now s source id r) =
      forward hasSink id (mergedNode s id r now) := by
  unfold storedEffects forward
  dsimp only
  cases hasSink && (mergedNode s id r now).hasStatistics <;>
    cases (s.registry.find? id).isNone <;> rfl

theorem updatesOf_storedEffects (hasSink : Bool) (now : Int) (s : State) (source : SocketAddress)
    (id : NodeId) (r : Response) :
    updatesOf (storedEffects hasSink now s source id r) =
      [(id, hasSink && (mergedNode s id r now).hasStatistics)] := by
  unfold storedEffects forward
  dsimp only
  cases hasSink && (mergedNode s id r now).hasStatistics <;>
    cases (s.registry.find? id).isNone <;> rfl

/-- The call of the sink at a position of a run. -/
def callAt? (run : List (Int × Datagram)) (i : Nat) : Option Write :=
  (forwardedAt? (run.map (·.2)) i).bind fun id =>
    ((stateAt true .initial run (i + 1)).registry.find? id).map (.node id)

/-- The update at a position of a run with a sink. -/
def updateAt? (ds : List Datagram) (i : Nat) : Option (NodeId × Bool) :=
  (storedAt? ds i).map fun id => (id, (forwardedAt? ds i).isSome)

theorem calls_effectsAt {run : List (Int × Datagram)} {i : Nat} (inside : i < run.length) :
    writesOf (effectsAt true .initial run i) = (callAt? run i).toList ∧
      updatesOf (effectsAt true .initial run i) = (updateAt? (run.map (·.2)) i).toList := by
  obtain ⟨⟨now, d⟩, here⟩ : ∃ x, run[i]? = some x := ⟨_, List.getElem?_eq_getElem inside⟩
  cases stored : d.stored? with
  | none =>
    have absent := storedAt?_of_unstored here stored
    have unforwarded : forwardedAt? (run.map (·.2)) i = none := by
      rw [forwardedAt?, absent, Option.filter_none]
    have quiet := quiet_of_unstored true now (stateAt true .initial run i) stored
    unfold effectsAt callAt? updateAt?
    rw [here, Option.elim_some, quiet.1, quiet.2, absent, unforwarded]
    exact ⟨rfl, rfl⟩
  | some entry =>
    obtain ⟨id, r⟩ := entry
    obtain ⟨found, -, statistics⟩ := stored_at true here stored
    have flag := isSome_forwardedAt? here stored
    have named := storedAt?_of_stored here stored
    rw [effectsAt_of_stored true here stored]
    constructor
    · change writesOf (storedEffects true now _ d.source id r) = _
      rw [writesOf_storedEffects, forward, Bool.true_and, statistics, callAt?, forwardedAt?, named,
        Option.filter_some]
      split
      · rw [Option.bind_some, found]
        rfl
      · rfl
    · change updatesOf (storedEffects true now _ d.source id r) = _
      rw [updatesOf_storedEffects, Bool.true_and, statistics, updateAt?, named, flag]
      rfl

theorem writesOf_handleAll (run : List (Int × Datagram)) :
    writesOf (handleAll true .initial run).2 = (List.range run.length).filterMap (callAt? run) := by
  rw [snd_handleAll, writesOf, List.filterMap_flatMap, List.filterMap_eq_flatMap_toList]
  exact List.flatMap_congr fun i inside => (calls_effectsAt (List.mem_range.mp inside)).1

theorem updatesOf_handleAll (run : List (Int × Datagram)) :
    updatesOf (handleAll true .initial run).2 =
      (List.range run.length).filterMap (updateAt? (run.map (·.2))) := by
  rw [snd_handleAll, updatesOf, List.filterMap_flatMap, List.filterMap_eq_flatMap_toList]
  exact List.flatMap_congr fun i inside => (calls_effectsAt (List.mem_range.mp inside)).2

/-! ## Counting the calls -/

/-- Every call of the sink is counted. -/
theorem sinkForwards_handle (hasSink : Bool) (now : Int) (s : State) (d : Datagram) :
    (handle hasSink now s d).1.counters.sinkForwards =
      s.counters.sinkForwards + (writesOf (handle hasSink now s d).2).length := by
  rcases handle_cases hasSink now s d with
    ⟨e, -, -, step⟩ | ⟨r, -, -, step⟩ | ⟨id, r, -, -, step⟩
  · rw [step]
    rfl
  · rw [step]
    rfl
  · rw [step]
    change (storedState hasSink now s id r).counters.sinkForwards =
      _ + (writesOf (storedEffects hasSink now s d.source id r)).length
    rw [writesOf_storedEffects]
    unfold storedState forward
    split <;> rfl

theorem sinkForwards_drainEach (hasSink : Bool) (s : State) (batches : List (List (Int × Datagram))) :
    (drainEach hasSink s batches).1.counters.sinkForwards =
      s.counters.sinkForwards + (writesOf (drainEach hasSink s batches).2).length := by
  refine drainEach_induction (motive := fun s _ t effects =>
    t.counters.sinkForwards = s.counters.sinkForwards + (writesOf effects).length)
    (fun _ => rfl) (fun _ => rfl) (sinkForwards_handle hasSink) ?_ s batches
  intro s t u _ _ xs ys first second
  rw [second, first, writesOf, writesOf, writesOf, List.filterMap_append, List.length_append]
  exact Nat.add_assoc ..

/-! ## With and without a sink -/

/-- A state with the calls of the sink struck from the counters. -/
def State.uncalled (s : State) : State :=
  { s with counters := { s.counters with sinkForwards := 0 } }

/-- A sink changes nothing in the state but the number of its calls. -/
theorem uncalled_handle (now : Int) (s : State) (d : Datagram) :
    (handle true now s d).1.uncalled = (handle false now s.uncalled d).1 := by
  rcases handle_cases true now s d with
    ⟨e, failed, -, step⟩ | ⟨r, decoded, refused, step⟩ | ⟨id, r, -, stored, step⟩
  · rw [step, handle_of_undecodable failed]
    rfl
  · rw [step, handle_of_refused decoded refused]
    rfl
  · rw [step, handle_of_stored stored]
    unfold storedState State.uncalled
    split <;> rfl

theorem uncalled_handleAll (s : State) (run : List (Int × Datagram)) :
    (handleAll true s run).1.uncalled = (handleAll false s.uncalled run).1 := by
  induction run generalizing s with
  | nil => rfl
  | cons x run ih =>
    obtain ⟨now, d⟩ := x
    simp only [handleAll]
    rw [ih, uncalled_handle]

theorem writesOf_drainEach_false (s : State) (batches : List (List (Int × Datagram))) :
    writesOf (drainEach false s batches).2 = [] := by
  refine drainEach_induction (motive := fun _ _ _ effects => writesOf effects = [])
    (fun _ => rfl) (fun _ => rfl) ?_ ?_ s batches
  · intro now s d
    cases stored : d.stored? with
    | none => exact (quiet_of_unstored false now s stored).1
    | some entry =>
      rw [handle_of_stored stored]
      exact writesOf_storedEffects false now s d.source entry.1 entry.2
  · intro _ _ _ _ _ xs ys first second
    rw [writesOf, List.filterMap_append, ← writesOf, ← writesOf, first, second, List.append_nil]

/-- There is an update for each stored datagram, with a sink or without. -/
theorem ids_updatesOf_drainEach (hasSink : Bool) (s : State)
    (batches : List (List (Int × Datagram))) :
    (updatesOf (drainEach hasSink s batches).2).map (·.1) = storedIds (batches.flatten.map (·.2)) := by
  refine drainEach_induction (motive := fun _ ds _ effects =>
    (updatesOf effects).map (·.1) = storedIds ds)
    (fun _ => rfl) (fun _ => rfl) ?_ ?_ s batches
  · intro now s d
    rw [storedIds_singleton]
    cases stored : d.stored? with
    | none =>
      rw [(quiet_of_unstored hasSink now s stored).2]
      rfl
    | some entry =>
      rw [handle_of_stored stored]
      change (updatesOf (storedEffects hasSink now s d.source entry.1 entry.2)).map (·.1) = _
      rw [updatesOf_storedEffects]
      rfl
  · intro _ _ _ _ _ xs ys first second
    rw [updatesOf, List.filterMap_append, List.map_append, ← updatesOf, ← updatesOf, first, second,
      storedIds, storedIds, storedIds, List.filterMap_append]

/-! ## Whole runs -/

/-- A forwarded datagram has left a node with statistics in the registry. -/
theorem forwarded_node {run : List (Int × Datagram)} {i : Nat} {id : NodeId}
    (forwarded : forwardedAt? (run.map (·.2)) i = some id) :
    ∃ n, (stateAt true .initial run (i + 1)).registry.find? id = some n ∧
      n.sections = .latest (responsesFor id ((run.map (·.2)).take (i + 1))) ∧
      n.hasStatistics ∧ (Write.node id n).logged.isSome := by
  obtain ⟨stored, arrived⟩ := Option.filter_eq_some_iff.mp forwarded
  obtain ⟨d, received, named⟩ := Option.bind_eq_some_iff.mp stored
  obtain ⟨⟨key, r⟩, entry, rfl⟩ := Option.map_eq_some_iff.mp named
  rw [List.getElem?_map] at received
  obtain ⟨⟨now, d⟩, here, rfl⟩ := Option.map_eq_some_iff.mp received
  obtain ⟨found, sections, statistics⟩ := stored_at true here entry
  have has := statistics.trans arrived
  exact ⟨_, found, sections, has, by rw [Write.logged, Option.isSome_map]; exact has⟩

/-- Over an empty registry the sink is called once for each datagram that is stored when statistics of
its node have arrived, in order, with the node as the merge left it. Such a node has statistics, every
datagram stored for it from then on is forwarded, and the answers, the updates and the counter agree
with the calls. Without a sink there are no calls, and nothing else is different. -/
theorem drainEach_forwards (batches : List (List (Int × Datagram))) :
    let datagrams := batches.flatten.map (·.2)
    let run := drainEach true .initial batches
    let before := stateAt true .initial batches.flatten
    writesOf run.2 = (List.range datagrams.length).filterMap (fun i =>
      (forwardedAt? datagrams i).bind fun id =>
        ((before (i + 1)).registry.find? id).map (.node id)) ∧
    (∀ i id, forwardedAt? datagrams i = some id →
      ∃ n, (before (i + 1)).registry.find? id = some n ∧
        n.sections = .latest (responsesFor id (datagrams.take (i + 1))) ∧
        n.hasStatistics ∧ (Write.node id n).logged.isSome) ∧
    (∀ i j id, forwardedAt? datagrams i = some id → i ≤ j → storedAt? datagrams j = some id →
      forwardedAt? datagrams j = some id) ∧
    (∀ i now d id r, batches.flatten[i]? = some (now, d) → d.stored? = some (id, r) →
      (save true now d.source r (before i)).2.1 =
        .stored id (forwardedAt? datagrams i).isSome) ∧
    updatesOf run.2 = (List.range datagrams.length).filterMap (fun i =>
      (storedAt? datagrams i).map fun id => (id, (forwardedAt? datagrams i).isSome)) ∧
    run.1.counters.sinkForwards = (writesOf run.2).length ∧
    ∀ others, others.flatten.map (·.2) = datagrams →
      let bare := drainEach false .initial others
      writesOf bare.2 = [] ∧
      bare.1.registry.sections = run.1.registry.sections ∧
      (updatesOf bare.2).map (·.1) = (updatesOf run.2).map (·.1) ∧
      bare.1.counters = { run.1.counters with sinkForwards := 0 } := by
  intro datagrams run before
  refine ⟨?_, ?_, fun i j id => forwardedAt?_mono, ?_, ?_, ?_, ?_⟩
  · have calls := (filterMap_drainEach rfl true .initial batches).trans
      (writesOf_handleAll batches.flatten)
    unfold callAt? at calls
    rw [← List.length_map (·.2)] at calls
    exact calls
  · intro i id forwarded
    exact forwarded_node forwarded
  · intro i now d id r here stored
    obtain ⟨decoded, named⟩ := Datagram.stored?_eq_some_iff.mp stored
    obtain ⟨-, -, statistics⟩ := stored_at true here stored
    have flag := isSome_forwardedAt? here stored
    rw [save_of_named d.source named, Bool.true_and, statistics, flag]
  · have updates := (filterMap_drainEach rfl true .initial batches).trans
      (updatesOf_handleAll batches.flatten)
    unfold updateAt? at updates
    rw [← List.length_map (·.2)] at updates
    exact updates
  · exact (sinkForwards_drainEach true .initial batches).trans (Nat.zero_add _)
  · intro others same bare
    have alike := (handleAll_congr false (s := .initial) (t := .initial) ⟨rfl, rfl⟩ same).1
    have struck : run.1.uncalled = (handleAll false .initial batches.flatten).1 := by
      rw [fst_drainEach]
      exact uncalled_handleAll .initial batches.flatten
    rw [← fst_drainEach, ← struck] at alike
    refine ⟨writesOf_drainEach_false .initial others, alike.sections, ?_, alike.counters⟩
    rw [ids_updatesOf_drainEach, ids_updatesOf_drainEach, same]

/-- A datagram that holds a readable text in one stored block is stored under the identifier that the
text names. -/
theorem stored?_storedStream (source : SocketAddress) {text : List UInt8} {id : NodeId}
    {r : Response} (fits : text.length ≤ Deflate.storedLimit) (read : Response.ofText text = .ok r)
    (named : r.named? = some id.text) :
    (Datagram.mk source (Deflate.storedStream [] text)).stored? = some (id, r) := by
  refine Datagram.stored?_eq_some_iff.mpr ⟨?_, named⟩
  have decoded : decodePayload (Deflate.storedStream [] text) = .ok r :=
    decodePayload_storedStream (fun block mem => List.mem_singleton.mp mem ▸ fits) read
  rw [Datagram.decode, decoded]
  rfl

/-- Neighbours of a node that arrive before and after its statistics. -/
theorem drainEach_forwards_neighbours :
    let source : SocketAddress := .v4 ⟨203, 0, 113, 5⟩ 1234
    let id : NodeId := ⟨"c0ffee000001", by decide⟩
    let around : Datagram :=
      ⟨source, Deflate.storedStream [] (Text.utf8 "[null,null,\x7b\"id\":\"c0ffee000001\"\x7d]")⟩
    let measured : Datagram :=
      ⟨source, Deflate.storedStream [] (Text.utf8 "[null,\x7b\"id\":\"c0ffee000001\"\x7d,null]")⟩
    let batches : List (List (Int × Datagram)) := [[(0, around), (2, measured)], [(7, around)]]
    let datagrams := batches.flatten.map (·.2)
    forwardedAt? datagrams 0 = none ∧ forwardedAt? datagrams 2 = some id ∧
    ∃ n, (stateAt true .initial batches.flatten 3).registry.find? id = some n ∧
      n.hasStatistics ∧ (Write.node id n).logged.isSome := by
  intro source id around measured batches datagrams
  have early : around.stored? = some (id, ⟨none, none, some ⟨id.text, []⟩⟩) :=
    stored?_storedStream source (by decide +kernel) (by cbv) rfl
  have middle : measured.stored? =
      some (id, ⟨none, some ⟨id.text, none, none, none, none, []⟩, none⟩) :=
    stored?_storedStream source (by decide +kernel) (by cbv) rfl
  have aroundFor := Datagram.responseFor_eq_some_iff.mpr early
  have measuredFor := Datagram.responseFor_eq_some_iff.mpr middle
  have unforwarded : forwardedAt? [around, measured, around] 0 = none := by
    simp [forwardedAt?, storedAt?, early, Pipeline.measured, responsesFor, aroundFor]
  have forwarded : forwardedAt? [around, measured, around] 1 = some id := by
    simp [forwardedAt?, storedAt?, middle, Pipeline.measured, responsesFor, aroundFor, measuredFor]
  have last : storedAt? [around, measured, around] 2 = some id := by
    simp [storedAt?, early]
  obtain ⟨-, nodes, later, -⟩ := drainEach_forwards batches
  have again : forwardedAt? datagrams 2 = some id := later 1 2 id forwarded (by decide) last
  obtain ⟨n, found, -, has, logged⟩ := nodes 2 id again
  exact ⟨unforwarded, again, n, found, has, logged⟩
end MeshTelemetry.Pipeline
