import MeshTelemetry.Proofs.GlobalStats.Sum

/-!
# Aggregates are exact

`Totals` are aggregates in natural numbers, which never run out of room, computed node by node like
`GlobalStats`. A node for which there is `Room` is counted alike in both (`exact_add`). In fewer than 2^32
nodes there is room for every next one (`room_ofNodes`): the counts grow by at most one for each node and
the sums by less than 2^32. So no addition wraps on the way, and the aggregates are the totals
(`ofNodes_exact`).
-/

namespace MeshTelemetry

/-! ## Aggregates in natural numbers -/

/-- Counts under names as natural numbers, sorted by name. -/
abbrev Census := List (String × Nat)

/-- Count a name once more. -/
def Census.bump (name : String) : Census → Census
  | [] => [(name, 1)]
  | (other, n) :: rest =>
    if name = other then (other, n + 1) :: rest
    else if name < other then (name, 1) :: (other, n) :: rest
    else (other, n) :: Census.bump name rest

/-- Count a name once more, if there is one. -/
def Census.bump? (name : Option String) (c : Census) : Census :=
  match name with
  | none => c
  | some name => c.bump name

/-- Aggregates over nodes in natural numbers. -/
structure Totals where
  nodes : Nat
  clients : Nat
  clientsWifi : Nat
  clientsWifi24 : Nat
  clientsWifi5 : Nat
  firmwares : Census
  models : Census

namespace Totals

def zero : Totals :=
  ⟨0, 0, 0, 0, 0, [], []⟩

/-- Add client counters. -/
def addClients (s : Totals) (c : Clients) : Totals :=
  { s with
    clients := s.clients + c.total.toNat
    clientsWifi := s.clientsWifi + c.wifi.toNat
    clientsWifi24 := s.clientsWifi24 + c.wifi24.toNat
    clientsWifi5 := s.clientsWifi5 + c.wifi5.toNat }

/-- Count the release of the firmware in the software of a node, and the model of its hardware. -/
def addInfo (s : Totals) (info : NodeInfo) : Totals :=
  { s with
    firmwares := s.firmwares.bump? <|
      info.software.bind fun software => software.firmware.bind fun firmware => firmware.release
    models := s.models.bump? <| info.hardware.bind fun hardware => hardware.model }

/-- Count a node with everything that is known about it. -/
def add (s : Totals) (n : Node) : Totals :=
  let counted := { s with nodes := s.nodes + 1 }
  let summed := match n.statistics.bind (·.clients) with
    | none => counted
    | some c => counted.addClients c
  match n.nodeInfo with
  | none => summed
  | some info => summed.addInfo info

def ofNodes (nodes : List Node) : Totals :=
  nodes.foldl add zero

end Totals

/-- The counts of a tally as natural numbers. -/
def Tally.exact (t : Tally) : Census :=
  t.map fun e => (e.1, e.2.toNat)

/-- Aggregates as natural numbers. -/
def GlobalStats.exact (s : GlobalStats) : Totals :=
  { nodes := s.nodes.toNat
    clients := s.clients.toNat
    clientsWifi := s.clientsWifi.toNat
    clientsWifi24 := s.clientsWifi24.toNat
    clientsWifi5 := s.clientsWifi5.toNat
    firmwares := s.firmwares.exact
    models := s.models.exact }

/-! ## Room for one more -/

/-- A count with room for one more is raised exactly. -/
theorem Tally.exact_bump {name : String} {t : Tally}
    (room : (t.countOf name).toNat + 1 < 4294967296) :
    (t.bump name).exact = t.exact.bump name := by
  fun_induction Tally.bump name t with
  | case1 => rfl
  | case2 n rest =>
    rw [countOf_cons, if_pos rfl] at room
    simp only [exact, List.map_cons, toNat_raised room, Census.bump, if_pos]
  | case3 key n rest distinct before =>
    simp only [exact, List.map_cons, Census.bump, if_neg distinct, if_pos before]
    rfl
  | case4 key n rest distinct reached ih =>
    rw [countOf_cons, if_neg distinct] at room
    have tail := ih room
    simp only [exact, List.map_cons, Census.bump, if_neg distinct, if_neg reached] at tail ⊢
    rw [tail]

theorem Tally.exact_bump? {name : Option String} {t : Tally}
    (room : ∀ x, name = some x → (t.countOf x).toNat + 1 < 4294967296) :
    (t.bump? name).exact = t.exact.bump? name := by
  cases name with
  | none => rfl
  | some x => exact exact_bump (room x rfl)

namespace GlobalStats

/-- No addition that counts a node wraps. -/
structure Room (s : GlobalStats) (n : Node) : Prop where
  nodes : s.nodes.toNat + 1 < 18446744073709551616
  clients : ∀ c, n.statistics.bind (·.clients) = some c →
    s.clients.toNat + c.total.toNat < 18446744073709551616 ∧
    s.clientsWifi.toNat + c.wifi.toNat < 18446744073709551616 ∧
    s.clientsWifi24.toNat + c.wifi24.toNat < 18446744073709551616 ∧
    s.clientsWifi5.toNat + c.wifi5.toNat < 18446744073709551616
  firmwares : ∀ name, n.nodeInfo.bind (·.release) = some name →
    (s.firmwares.countOf name).toNat + 1 < 4294967296
  models : ∀ name, n.nodeInfo.bind (·.model) = some name →
    (s.models.countOf name).toNat + 1 < 4294967296

theorem toNat_add_toUInt64 {a : UInt64} {b : UInt32}
    (room : a.toNat + b.toNat < 18446744073709551616) :
    (a + b.toUInt64).toNat = a.toNat + b.toNat := by
  rw [UInt64.toNat_add, UInt32.toNat_toUInt64]
  exact Nat.mod_eq_of_lt room

theorem exact_addClients {s : GlobalStats} {c : Clients}
    (room : s.clients.toNat + c.total.toNat < 18446744073709551616 ∧
      s.clientsWifi.toNat + c.wifi.toNat < 18446744073709551616 ∧
      s.clientsWifi24.toNat + c.wifi24.toNat < 18446744073709551616 ∧
      s.clientsWifi5.toNat + c.wifi5.toNat < 18446744073709551616) :
    (s.addClients c).exact = s.exact.addClients c := by
  obtain ⟨total, wifi, wifi24, wifi5⟩ := room
  simp only [exact, addClients, Totals.addClients, toNat_add_toUInt64 total,
    toNat_add_toUInt64 wifi, toNat_add_toUInt64 wifi24, toNat_add_toUInt64 wifi5]

theorem exact_addInfo {s : GlobalStats} {info : NodeInfo}
    (firmwares : ∀ x, info.release = some x → (s.firmwares.countOf x).toNat + 1 < 4294967296)
    (models : ∀ x, info.model = some x → (s.models.countOf x).toNat + 1 < 4294967296) :
    (s.addInfo info).exact = s.exact.addInfo info := by
  simp only [exact, addInfo, Totals.addInfo, Tally.exact_bump? firmwares,
    Tally.exact_bump? models]
  rfl

/-- A node for which there is room is counted exactly. -/
theorem exact_add {s : GlobalStats} {n : Node} (room : Room s n) :
    (s.add n).exact = s.exact.add n := by
  have counted : exact { s with nodes := s.nodes + 1 } =
      { s.exact with nodes := s.exact.nodes + 1 } := by
    simp only [exact, UInt64.toNat_add]
    rw [Nat.mod_eq_of_lt (by exact room.nodes)]
    rfl
  have firmwares := room.firmwares
  have models := room.models
  unfold add Totals.add
  rw [← counted]
  -- The sums come first, and leave the tallies alone.
  cases reported : n.statistics.bind (·.clients) with
  | none =>
    cases known : n.nodeInfo with
    | none => rfl
    | some info =>
      rw [known] at firmwares models
      exact exact_addInfo firmwares models
  | some c =>
    have summed := exact_addClients (s := { s with nodes := s.nodes + 1 }) (room.clients c reported)
    cases known : n.nodeInfo with
    | none => exact summed
    | some info =>
      rw [known] at firmwares models
      have both := exact_addInfo (s := addClients { s with nodes := s.nodes + 1 } c) firmwares models
      exact both.trans (congrArg (·.addInfo info) summed)

/-- Behind fewer than 2^32 - 1 nodes there is room for any other. -/
theorem room_ofNodes {nodes : List Node} (few : nodes.length + 1 < 4294967296) (n : Node) :
    Room (ofNodes nodes) n := by
  have exactly := describes_ofNodes (Nat.lt_of_succ_lt few)
  have sum {count : Clients → UInt32} (zero : count ⟨0, 0, 0, 0⟩ = 0) (c : Clients) :
      clientSum count nodes + (count c).toNat < 18446744073709551616 := by
    have before := clientSum_le zero nodes
    have one := (count c).toNat_lt
    omega
  have counted (name : NodeInfo → Option String) (x : String) :
      ((Tally.ofNames (reportedNames name nodes)).countOf x).toNat + 1 < 4294967296 := by
    have le := Tally.toNat_countOf_ofNames_le (reportedNames name nodes) x
    have fewer : (reportedNames name nodes).length ≤ nodes.length := length_reportedNames_le _
    omega
  refine ⟨?_, fun c _ => ?_, fun x _ => ?_, fun x _ => ?_⟩
  · rw [exactly.nodes_eq]
    omega
  · rw [exactly.clients_eq, exactly.clientsWifi_eq, exactly.clientsWifi24_eq,
      exactly.clientsWifi5_eq]
    exact ⟨sum rfl c, sum rfl c, sum rfl c, sum rfl c⟩
  · rw [ofNodes_eq]
    exact counted _ x
  · rw [ofNodes_eq]
    exact counted _ x

/-- Below 2^32 nodes the aggregates are the totals. -/
theorem exact_ofNodes {nodes : List Node} (few : nodes.length < 4294967296) :
    (ofNodes nodes).exact = Totals.ofNodes nodes := by
  induction nodes using List.reverseRecOn with
  | nil => rfl
  | append_singleton nodes n ih =>
    rw [List.length_append, List.length_singleton] at few
    have last : ofNodes (nodes ++ [n]) = (ofNodes nodes).add n := List.foldl_append
    have lastTotals : Totals.ofNodes (nodes ++ [n]) = (Totals.ofNodes nodes).add n :=
      List.foldl_append
    rw [last, lastTotals, exact_add (room_ofNodes few n), ih (Nat.lt_of_succ_lt few)]

/-- No count is above the number of nodes. -/
theorem Counts.le_length {name : NodeInfo → Option String} {nodes : List Node} {t : Tally}
    (counts : Counts name nodes t) {e : String × UInt32} (mem : e ∈ t) :
    e.2.toNat ≤ nodes.length := by
  rw [counts.toNat_count e.1 e.2 mem]
  exact List.countP_le_length

/-- In fewer than 2^32 nodes there is room for every node when it is counted, so that no addition wraps
and all aggregates are exact. No count is above the number of nodes, and no sum of client counters above
2^32 - 1 for each node. -/
theorem ofNodes_exact {nodes : List Node} (few : nodes.length < 4294967296) :
    let s := ofNodes nodes
    (∀ before n after, nodes = before ++ n :: after → Room (ofNodes before) n) ∧
    s.exact = Totals.ofNodes nodes ∧
    (∀ e ∈ s.firmwares, e.2.toNat ≤ s.nodes.toNat) ∧
    (∀ e ∈ s.models, e.2.toNat ≤ s.nodes.toNat) ∧
    s.clients.toNat ≤ s.nodes.toNat * 4294967295 ∧
    s.clientsWifi.toNat ≤ s.nodes.toNat * 4294967295 ∧
    s.clientsWifi24.toNat ≤ s.nodes.toNat * 4294967295 ∧
    s.clientsWifi5.toNat ≤ s.nodes.toNat * 4294967295 := by
  intro s
  have exactly : Describes nodes s := describes_ofNodes few
  rw [exactly.nodes_eq, exactly.clients_eq, exactly.clientsWifi_eq, exactly.clientsWifi24_eq,
    exactly.clientsWifi5_eq]
  refine ⟨fun before n after split => ?_, exact_ofNodes few,
    fun e mem => exactly.firmwares.le_length mem, fun e mem => exactly.models.le_length mem,
    clientSum_le rfl _, clientSum_le rfl _, clientSum_le rfl _, clientSum_le rfl _⟩
  rw [split, List.length_append, List.length_cons] at few
  exact room_ofNodes (by omega) n

/-- Two nodes of one release and one model, with the largest client counters there are. -/
theorem ofNodes_exact_largest :
    let most : Clients := ⟨4294967295, 4294967295, 4294967295, 4294967295⟩
    let n : Node :=
      { Node.new ⟨"c0ffee000001", by decide⟩ 0 with
        nodeInfo := some ⟨"c0ffee000001", none, some ⟨some "A", none⟩,
          some ⟨some ⟨none, some "1.0"⟩, []⟩, []⟩
        statistics := some ⟨"c0ffee000001", none, none, none, some most, []⟩ }
    let s := ofNodes [n, n]
    [n, n].length < 4294967296 ∧ s.exact = Totals.ofNodes [n, n] ∧
      s.nodes = 2 ∧ s.clients = 8589934590 ∧ s.firmwares = [("1.0", 2)] ∧ s.models = [("A", 2)] ∧
      (∀ e ∈ s.firmwares, e.2.toNat ≤ s.nodes.toNat) ∧ (∀ e ∈ s.models, e.2.toNat ≤ s.nodes.toNat) ∧
      s.clients.toNat ≤ s.nodes.toNat * 4294967295 := by
  intro most n s
  have few : [n, n].length < 4294967296 := by decide
  obtain ⟨-, exactly, firmwares, models, bound, -⟩ := ofNodes_exact few
  exact ⟨few, exactly, rfl, by decide, rfl, rfl, firmwares, models, bound⟩

end GlobalStats

end MeshTelemetry
