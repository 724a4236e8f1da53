import MeshTelemetry.Proofs.GlobalStats.Sum

/-!
# An update moves one node's contribution

The aggregates are computed anew from all nodes, while an update changes one of them. Still the
aggregates move by that node alone: what it contributed before is taken away, what it contributes now
is added, and what a response has nothing to say about stays as it is (`GlobalStats.ofNodes_update`).

A snapshot before the update is the node under the identifier, if there is one, and all others; one
after the update is the merged node and the same others. So every sum and every tally splits into the
share of the others, which is the same before and after, and that of one node (`clientSum_option`,
`reportedNames_option`).
-/

namespace MeshTelemetry

namespace GlobalStats

/-! ## The share of one node -/

/-- The client counters in a section, all zero if it is missing or reports none. -/
def countersOf (section? : Option Statistics) : Clients :=
  (section?.bind (·.clients)).getD ⟨0, 0, 0, 0⟩

/-- One if there is a name and it is the given one. -/
def isNamed (name : Option String) (x : String) : Nat :=
  if name = some x then 1 else 0

theorem clientSum_option {count : Clients → UInt32} (zero : count ⟨0, 0, 0, 0⟩ = 0)
    (n : Option Node) (others : List Node) :
    clientSum count (n.toList ++ others) =
      (count (countersOf (n.bind (·.statistics)))).toNat + clientSum count others := by
  rw [clientSum_append]
  cases n with
  | none => simp [clientSum, reportedClients, countersOf, zero]
  | some n =>
    rw [Option.toList_some, clientSum_singleton zero]
    rfl

theorem reportedNames_option (name : NodeInfo → Option String) (n : Option Node)
    (others : List Node) :
    reportedNames name (n.toList ++ others) =
      ((n.bind (·.nodeInfo)).bind name).toList ++ reportedNames name others := by
  rw [reportedNames_append]
  cases n with
  | none => rfl
  | some n => cases reported : n.nodeInfo.bind name <;> simp [reportedNames, reported]

theorem count_toList (name : Option String) (x : String) :
    name.toList.count x = isNamed name x := by
  cases name with
  | none => rfl
  | some y => simp [isNamed, List.count_singleton]

/-! ## What moves -/

/-- How a sum of client counters moves when the statistics of one node go from `old` to `new`, if there
are new ones. -/
structure MovesSum (count : Clients → UInt32) (old new : Option Statistics) (s next : UInt64) :
    Prop where
  kept : new = none → next = s
  moved : new.isSome → (next.toNat : Int) - s.toNat =
    (count (countersOf new)).toNat - (count (countersOf old)).toNat

/-- How a tally moves when the description of one node goes from `old` to `new`, if there is a new one. -/
structure MovesTally (name : NodeInfo → Option String) (old new : Option NodeInfo)
    (t next : Tally) : Prop where
  kept : new = none → next = t
  moved : new.isSome → ∀ x, (next.countOf x).toNat + isNamed (old.bind name) x =
    (t.countOf x).toNat + isNamed (new.bind name) x
  /-- A name whose count drops to zero is gone. -/
  mem_names_iff : ∀ x, x ∈ next.map (·.1) ↔ next.countOf x ≠ 0

/-- How aggregates move when a response arrives for a node, of which `old` is known. -/
structure Moves (old : Option Node) (r : Response) (s next : GlobalStats) : Prop where
  nodes : next.nodes.toNat = s.nodes.toNat + if old.isNone then 1 else 0
  clients : MovesSum (·.total) (old.bind (·.statistics)) r.statistics s.clients next.clients
  clientsWifi :
    MovesSum (·.wifi) (old.bind (·.statistics)) r.statistics s.clientsWifi next.clientsWifi
  clientsWifi24 :
    MovesSum (·.wifi24) (old.bind (·.statistics)) r.statistics s.clientsWifi24 next.clientsWifi24
  clientsWifi5 :
    MovesSum (·.wifi5) (old.bind (·.statistics)) r.statistics s.clientsWifi5 next.clientsWifi5
  firmwares :
    MovesTally (·.release) (old.bind (·.nodeInfo)) r.nodeInfo s.firmwares next.firmwares
  models : MovesTally (·.model) (old.bind (·.nodeInfo)) r.nodeInfo s.models next.models

section

variable {old : Option Node} {merged : Node} {others : List Node}

theorem movesSum_of_merged {count : Clients → UInt32} (zero : count ⟨0, 0, 0, 0⟩ = 0)
    (few : others.length + 1 < 4294967296) {new : Option Statistics}
    (statistics : merged.statistics = new.or (old.bind (·.statistics))) :
    MovesSum count (old.bind (·.statistics)) new
      (.ofNat (clientSum count (old.toList ++ others)))
      (.ofNat (clientSum count ((some merged).toList ++ others))) := by
  have after := clientSum_option zero (some merged) others
  rw [Option.bind_some, statistics] at after
  refine ⟨fun missing => ?_, fun present => ?_⟩
  · rw [after, missing, Option.none_or, clientSum_option zero]
  · have ⟨fits, fitsAfter⟩ : (old.toList ++ others).length < 4294967296 ∧
        ((some merged).toList ++ others).length < 4294967296 := by
      cases old <;> simp <;> omega
    obtain ⟨section?, rfl⟩ := Option.isSome_iff_exists.mp present
    rw [toNat_clientSum fits zero, toNat_clientSum fitsAfter zero, after, Option.some_or,
      clientSum_option zero]
    omega

theorem movesTally_of_merged (name : NodeInfo → Option String)
    (few : others.length + 1 < 4294967296) {new : Option NodeInfo}
    (nodeInfo : merged.nodeInfo = new.or (old.bind (·.nodeInfo))) :
    MovesTally name (old.bind (·.nodeInfo)) new
      (.ofNames (reportedNames name (old.toList ++ others)))
      (.ofNames (reportedNames name ((some merged).toList ++ others))) := by
  have after := reportedNames_option name (some merged) others
  rw [Option.bind_some, nodeInfo] at after
  have within (n : Option Node) :
      (reportedNames name (n.toList ++ others)).length < 4294967296 := by
    refine Nat.lt_of_le_of_lt (length_reportedNames_le _) ?_
    cases n <;> simp <;> omega
  refine ⟨fun missing => ?_, fun present x => ?_,
    fun x => Tally.mem_names_iff_countOf_ne_zero (within _)⟩
  · rw [after, missing, Option.none_or, reportedNames_option]
  · obtain ⟨info, rfl⟩ := Option.isSome_iff_exists.mp present
    have counted (n : Option Node) := Tally.toNat_ofNat_count (within n) x
    rw [Tally.countOf_ofNames, Tally.countOf_ofNames, counted, counted, after, Option.some_or,
      reportedNames_option, List.count_append, List.count_append, count_toList, count_toList]
    omega

end

/-- The aggregates over all nodes before and after an update differ by the contribution of the node that
the response is for, in whatever order snapshots hold the nodes. -/
theorem ofNodes_update {r : Registry} (fresh : r.ids.Nodup) (id : NodeId) (response : Response)
    (now : Int) (few : (r.update id response now).1.size < 4294967296) {before after : List Node}
    (ofBefore : before.Perm r.snapshot)
    (ofAfter : after.Perm (r.update id response now).1.snapshot) :
    Moves (r.find? id) response (ofNodes before) (ofNodes after) := by
  let merged := (r.update id response now).2
  have shares := Registry.perm_snapshot fresh id
  have sharesAfter : (r.update id response now).1.snapshot.Perm
      ((some merged).toList ++ r.others id) := Registry.perm_snapshot_put fresh id merged
  have size : (r.update id response now).1.size = (r.others id).length + 1 :=
    Registry.size_put fresh id merged
  have fewer : (r.others id).length + 1 < 4294967296 := size ▸ few
  have statistics := Registry.statistics_snd_update r id response now
  have nodeInfo := Registry.nodeInfo_snd_update r id response now
  rw [ofNodes_perm (ofBefore.trans shares), ofNodes_perm (ofAfter.trans sharesAfter), ofNodes_eq,
    ofNodes_eq]
  exact
    { nodes := by
        have fits (n : Nat) (small : n < 4294967296) : (UInt64.ofNat n).toNat = n :=
          UInt64.toNat_ofNat_of_lt' (Nat.lt_trans small (by decide))
        cases r.find? id with
        | none =>
          simp only [Option.toList_none, Option.toList_some, List.nil_append, List.singleton_append,
            List.length_cons, fits _ fewer, fits _ (Nat.lt_of_succ_lt fewer), Option.isNone_none,
            if_true]
        | some old => rfl
      clients := movesSum_of_merged rfl fewer statistics
      clientsWifi := movesSum_of_merged rfl fewer statistics
      clientsWifi24 := movesSum_of_merged rfl fewer statistics
      clientsWifi5 := movesSum_of_merged rfl fewer statistics
      firmwares := movesTally_of_merged _ fewer nodeInfo
      models := movesTally_of_merged _ fewer nodeInfo }

/-- A description without a release takes the place of one with a release, which no other node has. -/
theorem ofNodes_update_unreleased :
    let first : NodeId := ⟨"c0ffee000001", by decide⟩
    let second : NodeId := ⟨"c0ffee000002", by decide⟩
    let described (id : NodeId) (release : Option String) : NodeInfo :=
      ⟨id.text, none, some ⟨some "A", none⟩, some ⟨some ⟨none, release⟩, []⟩, []⟩
    let r : Registry :=
      ⟨[(first, { Node.new first 0 with
          nodeInfo := some (described first (some "1.0"))
          statistics := some ⟨first.text, none, none, none, some ⟨3, 2, 2, 0⟩, []⟩ }),
        (second, { Node.new second 0 with nodeInfo := some (described second (some "2.0")) })]⟩
    let response : Response := ⟨some (described first none), none, none⟩
    let next := (r.update first response 9).1
    r.ids.Nodup ∧ next.size < 4294967296 ∧
      Moves (r.find? first) response (ofNodes r.snapshot) (ofNodes next.snapshot) ∧
      (ofNodes r.snapshot).firmwares = [("1.0", 1), ("2.0", 1)] ∧
      (ofNodes next.snapshot).firmwares = [("2.0", 1)] ∧
      (ofNodes next.snapshot).models = [("A", 2)] ∧ (ofNodes next.snapshot).clients = 3 := by
  intro first second described r response next
  have fresh : r.ids.Nodup := by decide
  have few : next.size < 4294967296 := by decide
  exact ⟨fresh, few, ofNodes_update fresh first response 9 few (.refl _) (.refl _), by decide,
    by decide, by decide, by decide⟩

end GlobalStats

end MeshTelemetry
