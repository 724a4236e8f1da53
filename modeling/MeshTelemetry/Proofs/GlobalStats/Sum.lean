import MeshTelemetry.Proofs.GlobalStats

/-!
# Aggregates are sums

`GlobalStats.ofNodes_eq` says what the aggregates over some nodes are, field by field: the number of
nodes, sums over the client counters that are reported, and tallies of the names that are reported,
each as far as its width can hold it. Below 2^32 nodes every width suffices (`describes_ofNodes`). So
the aggregates over two lists of nodes together are the sums of those over each (`ofNodes_adds_up`).
-/

namespace MeshTelemetry.GlobalStats

/-! ## What nodes report -/

/-- The client counters that some nodes report. -/
def reportedClients (nodes : List Node) : List Clients :=
  nodes.filterMap fun n => n.statistics.bind (·.clients)

/-- The sum of a client counter over the nodes that report client counters. -/
def clientSum (count : Clients → UInt32) (nodes : List Node) : Nat :=
  ((reportedClients nodes).map fun c => (count c).toNat).sum

/-- The names that some nodes report of themselves. -/
def reportedNames (name : NodeInfo → Option String) (nodes : List Node) : List String :=
  nodes.filterMap fun n => n.nodeInfo.bind name

section

variable {count : Clients → UInt32} {name : NodeInfo → Option String}

theorem clientSum_append (xs ys : List Node) :
    clientSum count (xs ++ ys) = clientSum count xs + clientSum count ys := by
  unfold clientSum reportedClients
  rw [List.filterMap_append, List.map_append, List.sum_append]

theorem clientSum_singleton (zero : count ⟨0, 0, 0, 0⟩ = 0) (n : Node) :
    clientSum count [n] = (count (clientsOf n)).toNat := by
  unfold clientSum reportedClients clientsOf
  cases reported : n.statistics.bind (·.clients) with
  | none => simp [reported, zero]
  | some c => simp [reported]

theorem clientSum_le (zero : count ⟨0, 0, 0, 0⟩ = 0) (nodes : List Node) :
    clientSum count nodes ≤ nodes.length * 4294967295 := by
  induction nodes with
  | nil => exact Nat.le_refl 0
  | cons n nodes ih =>
    have one := Nat.le_of_lt_succ (count (clientsOf n)).toNat_lt
    rw [← List.singleton_append, clientSum_append, clientSum_singleton zero, List.length_append,
      Nat.add_mul, List.length_singleton, Nat.one_mul]
    exact Nat.add_le_add one ih

theorem reportedNames_append (xs ys : List Node) :
    reportedNames name (xs ++ ys) = reportedNames name xs ++ reportedNames name ys :=
  List.filterMap_append

theorem length_reportedNames_le (nodes : List Node) :
    (reportedNames name nodes).length ≤ nodes.length :=
  List.length_filterMap_le ..

theorem bump?_ofNames (names : List String) (n : Node) :
    (Tally.ofNames names).bump? (n.nodeInfo.bind name) =
      Tally.ofNames (names ++ reportedNames name [n]) := by
  cases reported : n.nodeInfo.bind name with
  | none => simp [reportedNames, reported, Tally.bump?]
  | some x => simp [reportedNames, reported, Tally.bump?, Tally.ofNames_concat]

end

/-! ## What the aggregates are -/

/-- The aggregates over some nodes, each as far as its width can hold it. -/
theorem ofNodes_eq (nodes : List Node) :
    ofNodes nodes =
      { nodes := .ofNat nodes.length
        clients := .ofNat (clientSum (·.total) nodes)
        clientsWifi := .ofNat (clientSum (·.wifi) nodes)
        clientsWifi24 := .ofNat (clientSum (·.wifi24) nodes)
        clientsWifi5 := .ofNat (clientSum (·.wifi5) nodes)
        firmwares := .ofNames (reportedNames (·.release) nodes)
        models := .ofNames (reportedNames (·.model) nodes) } := by
  induction nodes using List.reverseRecOn with
  | nil => rfl
  | append_singleton nodes n ih =>
    have last : ofNodes (nodes ++ [n]) = (ofNodes nodes).add n := List.foldl_append
    rw [last, ih, add_eq]
    simp only [clientSum_append, reportedNames_append, bump?_ofNames, List.length_append,
      List.length_singleton, UInt64.ofNat_add, clientSum_singleton, UInt64.ofNat_uInt32ToNat]
    rfl

/-- Neither tally counts more names than there are nodes. -/
theorem totals_le (nodes : List Node) :
    (ofNodes nodes).firmwares.total ≤ nodes.length ∧
      (ofNodes nodes).models.total ≤ nodes.length := by
  rw [ofNodes_eq]
  have within (name : NodeInfo → Option String) :
      (Tally.ofNames (reportedNames name nodes)).total ≤ nodes.length :=
    Nat.le_trans (Tally.total_ofNames_le _) (length_reportedNames_le nodes)
  exact ⟨within _, within _⟩

/-! ## Below 2^32 nodes -/

/-- A tally of what nodes report of themselves. -/
structure Counts (name : NodeInfo → Option String) (nodes : List Node) (t : Tally) : Prop where
  ascending : t.Ascending
  /-- The names are those that are reported. -/
  mem_names_iff : ∀ x, x ∈ t.map (·.1) ↔
    ∃ n ∈ nodes, ∃ info, n.nodeInfo = some info ∧ name info = some x
  /-- The count of a name is the number of nodes that report it. -/
  toNat_count : ∀ x count, (x, count) ∈ t →
    count.toNat = nodes.countP fun n => n.nodeInfo.bind name = some x
  ne_zero : ∀ e ∈ t, e.2 ≠ 0
  /-- The counts sum to the number of nodes that report some name. -/
  total_eq : t.total = nodes.countP fun n => (n.nodeInfo.bind name).isSome

theorem mem_reportedNames {name : NodeInfo → Option String} {nodes : List Node} {x : String} :
    x ∈ reportedNames name nodes ↔
      ∃ n ∈ nodes, ∃ info, n.nodeInfo = some info ∧ name info = some x := by
  unfold reportedNames
  rw [List.mem_filterMap]
  exact exists_congr fun n => and_congr_right fun _ => Option.bind_eq_some_iff

/-- Below 2^32 nodes the names that are reported are counted exactly. -/
theorem counts_ofNames {nodes : List Node} (few : nodes.length < 4294967296)
    (name : NodeInfo → Option String) :
    Counts name nodes (.ofNames (reportedNames name nodes)) := by
  have fewer : (reportedNames name nodes).length < 4294967296 :=
    Nat.lt_of_le_of_lt (length_reportedNames_le nodes) few
  refine ⟨Tally.ascending_ofNames _, fun x => ?_, fun x count mem => ?_, fun e mem zero => ?_, ?_⟩
  · exact Tally.mem_names_ofNames.trans mem_reportedNames
  · rw [(Tally.mem_ofNames.mp mem).2, Tally.toNat_ofNat_count fewer, reportedNames,
      List.count_filterMap]
    refine List.countP_congr fun n _ => ?_
    simp
  · obtain ⟨inside, counted⟩ := Tally.mem_ofNames.mp mem
    have exact := Tally.toNat_ofNat_count fewer e.1
    rw [← counted, zero] at exact
    exact Nat.ne_of_gt (List.count_pos_iff.mpr inside) exact.symm
  · rw [Tally.total_ofNames fewer]
    exact List.length_filterMap_eq_countP

/-- Aggregates that say of some nodes exactly what they report. -/
structure Describes (nodes : List Node) (s : GlobalStats) : Prop where
  nodes_eq : s.nodes.toNat = nodes.length
  clients_eq : s.clients.toNat = clientSum (·.total) nodes
  clientsWifi_eq : s.clientsWifi.toNat = clientSum (·.wifi) nodes
  clientsWifi24_eq : s.clientsWifi24.toNat = clientSum (·.wifi24) nodes
  clientsWifi5_eq : s.clientsWifi5.toNat = clientSum (·.wifi5) nodes
  firmwares : Counts (·.release) nodes s.firmwares
  models : Counts (·.model) nodes s.models
  /-- The releases are those of the firmware in the software of some node. -/
  mem_releases_iff : ∀ x, x ∈ s.firmwares.map (·.1) ↔
    ∃ n ∈ nodes, ∃ info, n.nodeInfo = some info ∧
      ∃ software firmware, info.software = some software ∧ software.firmware = some firmware ∧
        firmware.release = some x
  /-- The models are those of the hardware of some node. -/
  mem_models_iff : ∀ x, x ∈ s.models.map (·.1) ↔
    ∃ n ∈ nodes, ∃ info, n.nodeInfo = some info ∧
      ∃ hardware, info.hardware = some hardware ∧ hardware.model = some x

/-- A sum of client counters fits 64 bits. -/
theorem toNat_clientSum {nodes : List Node} (few : nodes.length < 4294967296)
    {count : Clients → UInt32} (zero : count ⟨0, 0, 0, 0⟩ = 0) :
    (UInt64.ofNat (clientSum count nodes)).toNat = clientSum count nodes := by
  have bound := clientSum_le zero nodes
  refine UInt64.toNat_ofNat_of_lt' (Nat.lt_of_le_of_lt bound ?_)
  unfold UInt64.size
  omega

theorem describes_ofNodes {nodes : List Node} (few : nodes.length < 4294967296) :
    Describes nodes (ofNodes nodes) := by
  have fits : nodes.length < UInt64.size := by unfold UInt64.size; omega
  rw [ofNodes_eq]
  exact
    { nodes_eq := UInt64.toNat_ofNat_of_lt' fits
      clients_eq := toNat_clientSum few rfl
      clientsWifi_eq := toNat_clientSum few rfl
      clientsWifi24_eq := toNat_clientSum few rfl
      clientsWifi5_eq := toNat_clientSum few rfl
      firmwares := counts_ofNames few _
      models := counts_ofNames few _
      mem_releases_iff := fun x => by
        simp only [(counts_ofNames few _).mem_names_iff, NodeInfo.release_eq_some_iff]
      mem_models_iff := fun x => by
        simp only [(counts_ofNames few _).mem_names_iff, NodeInfo.model_eq_some_iff] }

/-- Aggregates each of which is the sum of two others. -/
structure IsSum (s a b : GlobalStats) : Prop where
  nodes : s.nodes.toNat = a.nodes.toNat + b.nodes.toNat
  clients : s.clients.toNat = a.clients.toNat + b.clients.toNat
  clientsWifi : s.clientsWifi.toNat = a.clientsWifi.toNat + b.clientsWifi.toNat
  clientsWifi24 : s.clientsWifi24.toNat = a.clientsWifi24.toNat + b.clientsWifi24.toNat
  clientsWifi5 : s.clientsWifi5.toNat = a.clientsWifi5.toNat + b.clientsWifi5.toNat
  firmwares : s.firmwares.IsSum a.firmwares b.firmwares
  models : s.models.IsSum a.models b.models

theorem isSum_ofNodes {xs ys : List Node} (few : (xs ++ ys).length < 4294967296) :
    IsSum (ofNodes (xs ++ ys)) (ofNodes xs) (ofNodes ys) := by
  have ⟨fewer, others⟩ : xs.length < 4294967296 ∧ ys.length < 4294967296 := by
    rw [List.length_append] at few
    omega
  have whole := describes_ofNodes few
  have left := describes_ofNodes fewer
  have right := describes_ofNodes others
  have tally (name : NodeInfo → Option String) :
      Tally.IsSum (.ofNames (reportedNames name (xs ++ ys))) (.ofNames (reportedNames name xs))
        (.ofNames (reportedNames name ys)) := by
    have short : (reportedNames name (xs ++ ys)).length < 4294967296 :=
      Nat.lt_of_le_of_lt (length_reportedNames_le _) few
    rw [reportedNames_append] at short ⊢
    exact Tally.isSum_ofNames short
  refine ⟨?_, ?_, ?_, ?_, ?_, ?_, ?_⟩
  · rw [whole.nodes_eq, left.nodes_eq, right.nodes_eq, List.length_append]
  · rw [whole.clients_eq, left.clients_eq, right.clients_eq, clientSum_append]
  · rw [whole.clientsWifi_eq, left.clientsWifi_eq, right.clientsWifi_eq, clientSum_append]
  · rw [whole.clientsWifi24_eq, left.clientsWifi24_eq, right.clientsWifi24_eq, clientSum_append]
  · rw [whole.clientsWifi5_eq, left.clientsWifi5_eq, right.clientsWifi5_eq, clientSum_append]
  · rw [ofNodes_eq (xs ++ ys), ofNodes_eq xs, ofNodes_eq ys]
    exact tally _
  · rw [ofNodes_eq (xs ++ ys), ofNodes_eq xs, ofNodes_eq ys]
    exact tally _

/-- Aggregates are the same for every order of the nodes. Below 2^32 nodes they say exactly what the
nodes report, and those over two lists of nodes together are the sums of those over each. -/
theorem ofNodes_adds_up (xs ys : List Node) :
    ((xs ++ ys).length < 4294967296 → IsSum (ofNodes (xs ++ ys)) (ofNodes xs) (ofNodes ys)) ∧
    (xs.Perm ys → ofNodes xs = ofNodes ys) ∧
    (xs.length < 4294967296 → Describes xs (ofNodes xs)) :=
  ⟨isSum_ofNodes, ofNodes_perm, describes_ofNodes⟩

/-- Two nodes of one model, of which the second has no release and no statistics. -/
theorem ofNodes_adds_up_model :
    let first : Node :=
      { Node.new ⟨"c0ffee000001", by decide⟩ 0 with
        nodeInfo := some ⟨"c0ffee000001", none, some ⟨some "A", none⟩,
          some ⟨some ⟨none, some "1.0"⟩, []⟩, []⟩
        statistics := some ⟨"c0ffee000001", none, none, none, some ⟨3, 2, 2, 0⟩, []⟩ }
    let second : Node :=
      { Node.new ⟨"c0ffee000002", by decide⟩ 0 with
        nodeInfo := some ⟨"c0ffee000002", none, some ⟨some "A", none⟩, none, []⟩ }
    let s := ofNodes ([first] ++ [second])
    ([first] ++ [second]).length < 4294967296 ∧
      IsSum s (ofNodes [first]) (ofNodes [second]) ∧ s = ofNodes ([second] ++ [first]) ∧
      Describes ([first] ++ [second]) s ∧
      s.clients = 3 ∧ s.models = [("A", 2)] ∧ s.firmwares = [("1.0", 1)] := by
  intro first second s
  have few : ([first] ++ [second]).length < 4294967296 := by decide
  have swapped : ([first] ++ [second]).Perm ([second] ++ [first]) := .swap second first []
  exact ⟨few, (ofNodes_adds_up [first] [second]).1 few, (ofNodes_adds_up _ _).2.1 swapped,
    (ofNodes_adds_up _ []).2.2 few, rfl, rfl, rfl⟩

end MeshTelemetry.GlobalStats
