import MeshTelemetry.Proofs.Response.Records

/-!
# The meaning of response documents

Which documents are responses is said by `IsResponse` and its parts: objects in which each typed key
occurs at most once and every value under one has its type. What a response reports is said by
`Response.Reports` and its parts: every typed field is the value under its key or its default, and
the other members of a section are kept. `Response.ofText_meaning` says that the documents that are
read are the responses, and that what is read of one reports it, whatever the blanks around it.

Two things are asked of a document (`Response.Regular`). Records that could be given by the list of
their fields are not, and what is kept respects the limits on nesting and on the range of doubles.
-/

namespace MeshTelemetry

open Json

/-! ## The description of the node -/

/-- The typed keys of the section that describes the node. -/
def NodeInfo.keys : List String :=
  ["node_id", "id", "hostname", "hardware", "software"]

/-- The type of a value under a key of the section that describes the node. -/
def NodeInfo.typed : String → Document → Prop
  | "node_id" => IsText
  | "id" => IsText
  | "hostname" => Nullable IsText
  | "hardware" => Nullable IsHardware
  | "software" => Nullable IsSoftware
  | _ => fun _ => True

/-- A document that describes a node. -/
def IsNodeInfo : Document → Prop :=
  IsRecord (namedInSection ["hostname", "hardware", "software"]) NodeInfo.typed

/-- The machine is not a list, the software is regular, and what is kept respects the limits. -/
structure NodeInfo.Regular (d : Document) : Prop where
  hardware : ∀ v, ("hardware", v) ∈ d.entries → v.isList = false
  software : ∀ v, ("software", v) ∈ d.entries → Software.Regular v
  kept : ∀ e ∈ others NodeInfo.keys d.entries, e.2.Fits (Json.nestingLimit - 2)

/-- A document describes this node. -/
structure NodeInfo.Reports (d : Document) (n : NodeInfo) : Prop where
  nodeId : n.nodeId = ((under ["node_id", "id"] d.entries).bind Document.text?).getD ""
  hostname : n.hostname = (under ["hostname"] d.entries).bind Document.text?
  hardware : Field Hardware.Reports (under ["hardware"] d.entries) n.hardware
  software : Field Software.Reports (under ["software"] d.entries) n.software
  extra : Keeps (Json.nestingLimit - 2) (others NodeInfo.keys d.entries) n.extra

theorem NodeInfo.not_mem_keys {key : String} (nodeId : key = "node_id" → False)
    (id : key = "id" → False) (hostname : key = "hostname" → False)
    (hardware : key = "hardware" → False) (software : key = "software" → False) :
    key ∉ NodeInfo.keys := by
  simp only [NodeInfo.keys, List.mem_cons, List.not_mem_nil, or_false, not_or]
  exact ⟨nodeId, id, hostname, hardware, software⟩

theorem NodeInfo.isSome_member? {whole : Document} (regular : NodeInfo.Regular whole) {key : String}
    {d : Document} (mem : (key, d) ∈ whole.entries) :
    (NodeInfo.member? key d).isSome = true ↔ NodeInfo.typed key d := by
  unfold NodeInfo.typed
  split
  · rw [NodeInfo.member?, Option.isSome_map, isSome_text?]
  · rw [NodeInfo.member?, Option.isSome_map, isSome_text?]
  · rw [NodeInfo.member?, Option.isSome_map, isSome_optional?]
    exact nullable_congr isSome_text?
  · rw [NodeInfo.member?, Option.isSome_map, isSome_optional?]
    exact nullable_congr (Hardware.isSome_ofDocument? (regular.hardware d mem))
  · rw [NodeInfo.member?, Option.isSome_map, isSome_optional?]
    exact nullable_congr (Software.isSome_ofDocument? (regular.software d mem))
  · rename_i nodeId id hostname hardware software
    rw [NodeInfo.member?.eq_6 key nodeId id hostname hardware software, Option.isSome_map,
      Document.isSome_keep?]
    have other := NodeInfo.not_mem_keys nodeId id hostname hardware software
    exact iff_of_true (regular.kept (key, d) (mem_others.mpr ⟨mem, other⟩)) trivial

theorem NodeInfo.isSome_ofDocument? {d : Document} (regular : NodeInfo.Regular d) :
    (NodeInfo.ofDocument? d).isSome = true ↔ IsNodeInfo d := by
  rw [NodeInfo.ofDocument?, Option.isSome_map, isSome_object?]
  exact IsRecord.congr fun e mem => NodeInfo.isSome_member? regular mem

theorem NodeInfo.fields_ofMembers {entries : List (String × Document)} {ms : List NodeInfo.Member}
    (all : (entries.mapM fun e => NodeInfo.member? e.1 e.2) = some ms) :
    (NodeInfo.ofMembers ms).nodeId =
        ((under ["node_id", "id"] entries).bind Document.text?).getD "" ∧
      (NodeInfo.ofMembers ms).hostname = (under ["hostname"] entries).bind Document.text? ∧
      (NodeInfo.ofMembers ms).hardware = (under ["hardware"] entries).bind Hardware.ofDocument? ∧
      (NodeInfo.ofMembers ms).software = (under ["software"] entries).bind Software.ofDocument? := by
  induction entries generalizing ms with
  | nil =>
    cases all
    exact ⟨rfl, rfl, rfl, rfl⟩
  | cons e entries ih =>
    rcases mapM_cons_eq_some.mp all with ⟨m, rest, first, more, rfl⟩
    obtain ⟨key, d⟩ := e
    have ⟨nodeId, hostname, hardware, software⟩ := ih more
    simp only [under_cons, List.mem_singleton]
    dsimp only at first
    unfold NodeInfo.member? at first
    split at first
    · rcases Option.map_eq_some_iff.mp first with ⟨x, value, rfl⟩
      exact ⟨(congrArg (Option.getD · "") value).symm, hostname, hardware, software⟩
    · rcases Option.map_eq_some_iff.mp first with ⟨x, value, rfl⟩
      exact ⟨(congrArg (Option.getD · "") value).symm, hostname, hardware, software⟩
    · rcases Option.map_eq_some_iff.mp first with ⟨x, value, rfl⟩
      exact ⟨nodeId, eq_of_optional? rfl value, hardware, software⟩
    · rcases Option.map_eq_some_iff.mp first with ⟨x, value, rfl⟩
      exact ⟨nodeId, hostname, eq_of_optional? rfl value, software⟩
    · rcases Option.map_eq_some_iff.mp first with ⟨x, value, rfl⟩
      exact ⟨nodeId, hostname, hardware, eq_of_optional? rfl value⟩
    · rename_i notNodeId notId notHostname notHardware notSoftware
      rcases Option.map_eq_some_iff.mp first with ⟨v, -, rfl⟩
      rw [if_neg (by simpa using ⟨notNodeId, notId⟩), if_neg notHostname, if_neg notHardware,
        if_neg notSoftware]
      exact ⟨nodeId, hostname, hardware, software⟩

theorem NodeInfo.extra_ofMembers {entries : List (String × Document)} {ms : List NodeInfo.Member}
    (all : (entries.mapM fun e => NodeInfo.member? e.1 e.2) = some ms) :
    Keeps (Json.nestingLimit - 2) (others NodeInfo.keys entries) (NodeInfo.ofMembers ms).extra := by
  refine keeps_of_picked (fun key d m read => ?_) all
  unfold NodeInfo.member? at read
  split at read
  case h_6 =>
    rename_i nodeId id hostname hardware software
    rcases Option.map_eq_some_iff.mp read with ⟨v, value, rfl⟩
    exact .inr ⟨NodeInfo.not_mem_keys nodeId id hostname hardware software, v, value, rfl⟩
  all_goals
    rcases Option.map_eq_some_iff.mp read with ⟨x, -, rfl⟩
    exact .inl ⟨by simp [NodeInfo.keys], rfl⟩

theorem NodeInfo.reports_of_isNodeInfo {d : Document} (regular : NodeInfo.Regular d)
    (fits : IsNodeInfo d) : ∃ n, NodeInfo.ofDocument? d = some n ∧ NodeInfo.Reports d n := by
  rcases Option.isSome_iff_exists.mp ((NodeInfo.isSome_ofDocument? regular).mpr fits) with ⟨n, read⟩
  refine ⟨n, read, ?_⟩
  rcases Option.map_eq_some_iff.mp read with ⟨ms, members, rfl⟩
  have all := object?_eq_some members
  rcases NodeInfo.fields_ofMembers all with ⟨nodeId, hostname, hardware, software⟩
  refine ⟨nodeId, hostname, ?_, ?_, NodeInfo.extra_ofMembers all⟩
  · rw [hardware]
    exact field_under rfl (fun v mem => fits.typed _ mem) fun v mem =>
      Hardware.reports_of_isHardware (regular.hardware v mem)
  · rw [software]
    exact field_under rfl (fun v mem => fits.typed _ mem) fun v mem =>
      Software.reports_of_isSoftware (regular.software v mem)

/-! ## The measured values -/

/-- The typed keys of the section of measured values. -/
def Statistics.keys : List String :=
  ["node_id", "id", "uptime", "idletime", "loadavg", "clients"]

/-- The type of a value under a key of the section of measured values. -/
def Statistics.typed : String → Document → Prop
  | "node_id" => IsText
  | "id" => IsText
  | "uptime" => Nullable IsNumber
  | "idletime" => Nullable IsNumber
  | "loadavg" => Nullable IsNumber
  | "clients" => Nullable IsClients
  | _ => fun _ => True

/-- A document that gives measured values. -/
def IsStatistics : Document → Prop :=
  IsRecord (namedInSection ["uptime", "idletime", "loadavg", "clients"]) Statistics.typed

/-- The client counters are not a list, and the numbers and what is kept respect the limits. -/
structure Statistics.Regular (d : Document) : Prop where
  clients : ∀ v, ("clients", v) ∈ d.entries → v.isList = false
  numbers : ∀ key ∈ ["uptime", "idletime", "loadavg"], ∀ n,
    (key, Document.number n) ∈ d.entries → n.value?.isSome = true
  kept : ∀ e ∈ others Statistics.keys d.entries, e.2.Fits (Json.nestingLimit - 2)

/-- A document gives these measured values. -/
structure Statistics.Reports (d : Document) (s : Statistics) : Prop where
  nodeId : s.nodeId = ((under ["node_id", "id"] d.entries).bind Document.text?).getD ""
  uptime : s.uptime = (under ["uptime"] d.entries).bind Document.double?
  idleTime : s.idleTime = (under ["idletime"] d.entries).bind Document.double?
  loadAverage : s.loadAverage = (under ["loadavg"] d.entries).bind Document.double?
  clients : Field Clients.Reports (under ["clients"] d.entries) s.clients
  extra : Keeps (Json.nestingLimit - 2) (others Statistics.keys d.entries) s.extra

theorem Statistics.not_mem_keys {key : String} (nodeId : key = "node_id" → False)
    (id : key = "id" → False) (uptime : key = "uptime" → False)
    (idleTime : key = "idletime" → False) (loadAverage : key = "loadavg" → False)
    (clients : key = "clients" → False) : key ∉ Statistics.keys := by
  simp only [Statistics.keys, List.mem_cons, List.not_mem_nil, or_false, not_or]
  exact ⟨nodeId, id, uptime, idleTime, loadAverage, clients⟩

theorem Statistics.isSome_number? {whole : Document} (regular : Statistics.Regular whole)
    {key : String} {d : Document} (named : key ∈ ["uptime", "idletime", "loadavg"])
    (mem : (key, d) ∈ whole.entries) :
    (d.optional? Document.double?).isSome = true ↔ Nullable IsNumber d := by
  rw [isSome_optional?]
  refine nullable_congr (isSome_double? ?_)
  rintro n rfl
  exact regular.numbers key named n mem

theorem Statistics.isSome_member? {whole : Document} (regular : Statistics.Regular whole)
    {key : String} {d : Document} (mem : (key, d) ∈ whole.entries) :
    (Statistics.member? key d).isSome = true ↔ Statistics.typed key d := by
  unfold Statistics.typed
  split
  · rw [Statistics.member?, Option.isSome_map, isSome_text?]
  · rw [Statistics.member?, Option.isSome_map, isSome_text?]
  · rw [Statistics.member?, Option.isSome_map]
    exact Statistics.isSome_number? regular (by simp) mem
  · rw [Statistics.member?, Option.isSome_map]
    exact Statistics.isSome_number? regular (by simp) mem
  · rw [Statistics.member?, Option.isSome_map]
    exact Statistics.isSome_number? regular (by simp) mem
  · rw [Statistics.member?, Option.isSome_map, isSome_optional?]
    exact nullable_congr (Clients.isSome_ofDocument? (regular.clients d mem))
  · rename_i nodeId id uptime idleTime loadAverage clients
    rw [Statistics.member?.eq_7 key nodeId id uptime idleTime loadAverage clients,
      Option.isSome_map, Document.isSome_keep?]
    have other := Statistics.not_mem_keys nodeId id uptime idleTime loadAverage clients
    exact iff_of_true (regular.kept (key, d) (mem_others.mpr ⟨mem, other⟩)) trivial

theorem Statistics.isSome_ofDocument? {d : Document} (regular : Statistics.Regular d) :
    (Statistics.ofDocument? d).isSome = true ↔ IsStatistics d := by
  rw [Statistics.ofDocument?, Option.isSome_map, isSome_object?]
  exact IsRecord.congr fun e mem => Statistics.isSome_member? regular mem

theorem Statistics.fields_ofMembers {entries : List (String × Document)}
    {ms : List Statistics.Member}
    (all : (entries.mapM fun e => Statistics.member? e.1 e.2) = some ms) :
    (Statistics.ofMembers ms).nodeId =
        ((under ["node_id", "id"] entries).bind Document.text?).getD "" ∧
      (Statistics.ofMembers ms).uptime = (under ["uptime"] entries).bind Document.double? ∧
      (Statistics.ofMembers ms).idleTime = (under ["idletime"] entries).bind Document.double? ∧
      (Statistics.ofMembers ms).loadAverage = (under ["loadavg"] entries).bind Document.double? ∧
      (Statistics.ofMembers ms).clients = (under ["clients"] entries).bind Clients.ofDocument? := by
  induction entries generalizing ms with
  | nil =>
    cases all
    exact ⟨rfl, rfl, rfl, rfl, rfl⟩
  | cons e entries ih =>
    rcases mapM_cons_eq_some.mp all with ⟨m, rest, first, more, rfl⟩
    obtain ⟨key, d⟩ := e
    have ⟨nodeId, uptime, idleTime, loadAverage, clients⟩ := ih more
    simp only [under_cons, List.mem_singleton]
    dsimp only at first
    unfold Statistics.member? at first
    split at first
    · rcases Option.map_eq_some_iff.mp first with ⟨x, value, rfl⟩
      exact ⟨(congrArg (Option.getD · "") value).symm, uptime, idleTime, loadAverage, clients⟩
    · rcases Option.map_eq_some_iff.mp first with ⟨x, value, rfl⟩
      exact ⟨(congrArg (Option.getD · "") value).symm, uptime, idleTime, loadAverage, clients⟩
    · rcases Option.map_eq_some_iff.mp first with ⟨x, value, rfl⟩
      exact ⟨nodeId, eq_of_optional? rfl value, idleTime, loadAverage, clients⟩
    · rcases Option.map_eq_some_iff.mp first with ⟨x, value, rfl⟩
      exact ⟨nodeId, uptime, eq_of_optional? rfl value, loadAverage, clients⟩
    · rcases Option.map_eq_some_iff.mp first with ⟨x, value, rfl⟩
      exact ⟨nodeId, uptime, idleTime, eq_of_optional? rfl value, clients⟩
    · rcases Option.map_eq_some_iff.mp first with ⟨x, value, rfl⟩
      exact ⟨nodeId, uptime, idleTime, loadAverage, eq_of_optional? rfl value⟩
    · rename_i notNodeId notId notUptime notIdleTime notLoadAverage notClients
      rcases Option.map_eq_some_iff.mp first with ⟨v, -, rfl⟩
      rw [if_neg (by simpa using ⟨notNodeId, notId⟩), if_neg notUptime, if_neg notIdleTime,
        if_neg notLoadAverage, if_neg notClients]
      exact ⟨nodeId, uptime, idleTime, loadAverage, clients⟩

theorem Statistics.extra_ofMembers {entries : List (String × Document)}
    {ms : List Statistics.Member}
    (all : (entries.mapM fun e => Statistics.member? e.1 e.2) = some ms) :
    Keeps (Json.nestingLimit - 2) (others Statistics.keys entries)
      (Statistics.ofMembers ms).extra := by
  refine keeps_of_picked (fun key d m read => ?_) all
  unfold Statistics.member? at read
  split at read
  case h_7 =>
    rename_i nodeId id uptime idleTime loadAverage clients
    rcases Option.map_eq_some_iff.mp read with ⟨v, value, rfl⟩
    have other := Statistics.not_mem_keys nodeId id uptime idleTime loadAverage clients
    exact .inr ⟨other, v, value, rfl⟩
  all_goals
    rcases Option.map_eq_some_iff.mp read with ⟨x, -, rfl⟩
    exact .inl ⟨by simp [Statistics.keys], rfl⟩

theorem Statistics.reports_of_isStatistics {d : Document} (regular : Statistics.Regular d)
    (fits : IsStatistics d) : ∃ s, Statistics.ofDocument? d = some s ∧ Statistics.Reports d s := by
  obtain ⟨s, read⟩ :=
    Option.isSome_iff_exists.mp ((Statistics.isSome_ofDocument? regular).mpr fits)
  refine ⟨s, read, ?_⟩
  rcases Option.map_eq_some_iff.mp read with ⟨ms, members, rfl⟩
  have all := object?_eq_some members
  rcases Statistics.fields_ofMembers all with ⟨nodeId, uptime, idleTime, loadAverage, clients⟩
  refine ⟨nodeId, uptime, idleTime, loadAverage, ?_, Statistics.extra_ofMembers all⟩
  rw [clients]
  exact field_under rfl (fun v mem => fits.typed _ mem) fun v mem =>
    Clients.reports_of_isClients (regular.clients v mem)

/-! ## The neighbours -/

/-- The typed keys of the section about neighbours. -/
def Neighbours.keys : List String :=
  ["node_id", "id"]

/-- The type of a value under a key of the section about neighbours. -/
def Neighbours.typed : String → Document → Prop
  | "node_id" => IsText
  | "id" => IsText
  | _ => fun _ => True

/-- A document about neighbours. -/
def IsNeighbours : Document → Prop :=
  IsRecord (namedInSection []) Neighbours.typed

/-- What is kept respects the limits. -/
structure Neighbours.Regular (d : Document) : Prop where
  kept : ∀ e ∈ others Neighbours.keys d.entries, e.2.Fits (Json.nestingLimit - 2)

/-- A document tells this about neighbours. -/
structure Neighbours.Reports (d : Document) (n : Neighbours) : Prop where
  nodeId : n.nodeId = ((under ["node_id", "id"] d.entries).bind Document.text?).getD ""
  extra : Keeps (Json.nestingLimit - 2) (others Neighbours.keys d.entries) n.extra

theorem Neighbours.not_mem_keys {key : String} (nodeId : key = "node_id" → False)
    (id : key = "id" → False) : key ∉ Neighbours.keys := by
  simp only [Neighbours.keys, List.mem_cons, List.not_mem_nil, or_false, not_or]
  exact ⟨nodeId, id⟩

theorem Neighbours.isSome_member? {whole : Document} (regular : Neighbours.Regular whole)
    {key : String} {d : Document} (mem : (key, d) ∈ whole.entries) :
    (Neighbours.member? key d).isSome = true ↔ Neighbours.typed key d := by
  unfold Neighbours.typed
  split
  · rw [Neighbours.member?, Option.isSome_map, isSome_text?]
  · rw [Neighbours.member?, Option.isSome_map, isSome_text?]
  · rename_i nodeId id
    rw [Neighbours.member?.eq_3 key nodeId id, Option.isSome_map, Document.isSome_keep?]
    have other := Neighbours.not_mem_keys nodeId id
    exact iff_of_true (regular.kept (key, d) (mem_others.mpr ⟨mem, other⟩)) trivial

theorem Neighbours.isSome_ofDocument? {d : Document} (regular : Neighbours.Regular d) :
    (Neighbours.ofDocument? d).isSome = true ↔ IsNeighbours d := by
  rw [Neighbours.ofDocument?, Option.isSome_map, isSome_object?]
  exact IsRecord.congr fun e mem => Neighbours.isSome_member? regular mem

theorem Neighbours.nodeId_ofMembers {entries : List (String × Document)}
    {ms : List Neighbours.Member}
    (all : (entries.mapM fun e => Neighbours.member? e.1 e.2) = some ms) :
    (Neighbours.ofMembers ms).nodeId =
      ((under ["node_id", "id"] entries).bind Document.text?).getD "" := by
  induction entries generalizing ms with
  | nil =>
    cases all
    rfl
  | cons e entries ih =>
    rcases mapM_cons_eq_some.mp all with ⟨m, rest, first, more, rfl⟩
    obtain ⟨key, d⟩ := e
    have nodeId := ih more
    rw [under_cons]
    dsimp only at first
    unfold Neighbours.member? at first
    split at first
    · rcases Option.map_eq_some_iff.mp first with ⟨x, value, rfl⟩
      exact (congrArg (Option.getD · "") value).symm
    · rcases Option.map_eq_some_iff.mp first with ⟨x, value, rfl⟩
      exact (congrArg (Option.getD · "") value).symm
    · rename_i notNodeId notId
      rcases Option.map_eq_some_iff.mp first with ⟨v, -, rfl⟩
      rw [if_neg (by simpa using ⟨notNodeId, notId⟩)]
      exact nodeId

theorem Neighbours.extra_ofMembers {entries : List (String × Document)}
    {ms : List Neighbours.Member}
    (all : (entries.mapM fun e => Neighbours.member? e.1 e.2) = some ms) :
    Keeps (Json.nestingLimit - 2) (others Neighbours.keys entries)
      (Neighbours.ofMembers ms).extra := by
  refine keeps_of_picked (fun key d m read => ?_) all
  unfold Neighbours.member? at read
  split at read
  case h_3 =>
    rename_i nodeId id
    rcases Option.map_eq_some_iff.mp read with ⟨v, value, rfl⟩
    exact .inr ⟨Neighbours.not_mem_keys nodeId id, v, value, rfl⟩
  all_goals
    rcases Option.map_eq_some_iff.mp read with ⟨x, -, rfl⟩
    exact .inl ⟨by simp [Neighbours.keys], rfl⟩

theorem Neighbours.reports_of_isNeighbours {d : Document} (regular : Neighbours.Regular d)
    (fits : IsNeighbours d) : ∃ n, Neighbours.ofDocument? d = some n ∧ Neighbours.Reports d n := by
  obtain ⟨n, read⟩ :=
    Option.isSome_iff_exists.mp ((Neighbours.isSome_ofDocument? regular).mpr fits)
  refine ⟨n, read, ?_⟩
  rcases Option.map_eq_some_iff.mp read with ⟨ms, members, rfl⟩
  have all := object?_eq_some members
  exact ⟨Neighbours.nodeId_ofMembers all, Neighbours.extra_ofMembers all⟩

/-! ## Responses -/

/-- The type of a value under a key of a response. -/
def Response.typed : String → Document → Prop
  | "nodeinfo" => Nullable IsNodeInfo
  | "statistics" => Nullable IsStatistics
  | "neighbours" => Nullable IsNeighbours
  | _ => fun _ => True

/-- A document that is a response. -/
def IsResponse : Document → Prop :=
  IsRecord (namedIn ["nodeinfo", "statistics", "neighbours"]) Response.typed

/-- Records that could be lists are not, and what is kept respects the limits. -/
structure Response.Regular (d : Document) : Prop where
  plain : d.isList = false
  nodeInfo : ∀ v, ("nodeinfo", v) ∈ d.entries → NodeInfo.Regular v
  statistics : ∀ v, ("statistics", v) ∈ d.entries → Statistics.Regular v
  neighbours : ∀ v, ("neighbours", v) ∈ d.entries → Neighbours.Regular v

/-- A document is this response. -/
structure Response.Reports (d : Document) (r : Response) : Prop where
  nodeInfo : Field NodeInfo.Reports (under ["nodeinfo"] d.entries) r.nodeInfo
  statistics : Field Statistics.Reports (under ["statistics"] d.entries) r.statistics
  neighbours : Field Neighbours.Reports (under ["neighbours"] d.entries) r.neighbours

theorem Response.isSome_member? {whole : Document} (regular : Response.Regular whole) {key : String}
    {d : Document} (mem : (key, d) ∈ whole.entries) :
    (Response.member? key d).isSome = true ↔ Response.typed key d := by
  unfold Response.typed
  split
  · rw [Response.member?, Option.isSome_map, isSome_optional?]
    exact nullable_congr (NodeInfo.isSome_ofDocument? (regular.nodeInfo d mem))
  · rw [Response.member?, Option.isSome_map, isSome_optional?]
    exact nullable_congr (Statistics.isSome_ofDocument? (regular.statistics d mem))
  · rw [Response.member?, Option.isSome_map, isSome_optional?]
    exact nullable_congr (Neighbours.isSome_ofDocument? (regular.neighbours d mem))
  · rename_i nodeInfo statistics neighbours
    rw [Response.member?.eq_4 key nodeInfo statistics neighbours]
    exact iff_of_true rfl trivial

theorem Response.isSome_ofDocument? {d : Document} (regular : Response.Regular d) :
    (Response.ofDocument? d).isSome = true ↔ IsResponse d := by
  rw [Response.ofDocument?, Option.isSome_map, record?_eq_object? regular.plain, isSome_object?]
  exact IsRecord.congr fun e mem => Response.isSome_member? regular mem

theorem Response.fields_ofMembers {entries : List (String × Document)} {ms : List Response.Member}
    (all : (entries.mapM fun e => Response.member? e.1 e.2) = some ms) :
    (Response.ofMembers ms).nodeInfo = (under ["nodeinfo"] entries).bind NodeInfo.ofDocument? ∧
      (Response.ofMembers ms).statistics =
        (under ["statistics"] entries).bind Statistics.ofDocument? ∧
      (Response.ofMembers ms).neighbours =
        (under ["neighbours"] entries).bind Neighbours.ofDocument? := by
  induction entries generalizing ms with
  | nil =>
    cases all
    exact ⟨rfl, rfl, rfl⟩
  | cons e entries ih =>
    rcases mapM_cons_eq_some.mp all with ⟨m, rest, first, more, rfl⟩
    obtain ⟨key, d⟩ := e
    have ⟨nodeInfo, statistics, neighbours⟩ := ih more
    simp only [under_cons, List.mem_singleton]
    dsimp only at first
    unfold Response.member? at first
    split at first
    · rcases Option.map_eq_some_iff.mp first with ⟨x, value, rfl⟩
      exact ⟨eq_of_optional? rfl value, statistics, neighbours⟩
    · rcases Option.map_eq_some_iff.mp first with ⟨x, value, rfl⟩
      exact ⟨nodeInfo, eq_of_optional? rfl value, neighbours⟩
    · rcases Option.map_eq_some_iff.mp first with ⟨x, value, rfl⟩
      exact ⟨nodeInfo, statistics, eq_of_optional? rfl value⟩
    · rename_i notNodeInfo notStatistics notNeighbours
      cases first
      rw [if_neg notNodeInfo, if_neg notStatistics, if_neg notNeighbours]
      exact ⟨nodeInfo, statistics, neighbours⟩

theorem Response.reports_of_isResponse {d : Document} (regular : Response.Regular d)
    (fits : IsResponse d) : ∃ r, Response.ofDocument? d = some r ∧ Response.Reports d r := by
  rcases Option.isSome_iff_exists.mp ((Response.isSome_ofDocument? regular).mpr fits) with ⟨r, read⟩
  refine ⟨r, read, ?_⟩
  rw [Response.ofDocument?, record?_eq_object? regular.plain] at read
  rcases Option.map_eq_some_iff.mp read with ⟨ms, members, rfl⟩
  rcases Response.fields_ofMembers (object?_eq_some members) with ⟨nodeInfo, statistics, neighbours⟩
  constructor
  · rw [nodeInfo]
    exact field_under rfl (fun v mem => fits.typed _ mem) fun v mem =>
      NodeInfo.reports_of_isNodeInfo (regular.nodeInfo v mem)
  · rw [statistics]
    exact field_under rfl (fun v mem => fits.typed _ mem) fun v mem =>
      Statistics.reports_of_isStatistics (regular.statistics v mem)
  · rw [neighbours]
    exact field_under rfl (fun v mem => fits.typed _ mem) fun v mem =>
      Neighbours.reports_of_isNeighbours (regular.neighbours v mem)

/-- The documents that are read as a response are the responses, and what is read of one is what it
reports. -/
theorem Response.ofText_meaning {d : Document} (regular : Response.Regular d) (before after : Gap) :
    ((∃ r, Response.ofText (padded before d.bytes after) = .ok r) ↔ IsResponse d) ∧
      ∀ r, Response.ofText (padded before d.bytes after) = .ok r → Response.Reports d r := by
  constructor
  · rw [← Response.isSome_ofDocument? regular, Option.isSome_iff_exists]
    exact exists_congr fun r => Response.ofText_document d before after r
  · intro r run
    have read := (Response.ofText_document d before after r).mp run
    have fits := (Response.isSome_ofDocument? regular).mp (Option.isSome_of_eq_some read)
    rcases Response.reports_of_isResponse regular fits with ⟨other, value, reports⟩
    rw [read] at value
    rwa [← Option.some.inj value] at reports

/-- A node that gives its identifier under a key with an escaped letter, and its owner as null. -/
theorem Response.ofText_meaning_nodeInfo :
    let id : Quoted := [.unit ⟨0x30, 0x30, 0x36, 0x39, 0x69, rfl⟩ ⟨rfl, rfl⟩, .plain 'd' rfl]
    let node : Document := .object
      [(⟨[], id, []⟩, ⟨[⟨0x20, rfl⟩], .text (.plain "c0ffee" (by decide)), []⟩),
        (⟨[], .plain "owner" (by decide), []⟩, ⟨[], .null, []⟩)] []
    let d : Document := .object
      [(⟨[], .plain "nodeinfo" (by decide), []⟩, ⟨[], node, []⟩)] []
    Response.Regular d ∧ ∃ r, Response.ofText (padded [] d.bytes []) = .ok r ∧
      r.idIn .nodeInfo = some "c0ffee" := by
  intro id node d
  have inside : node.entries = [("id", .text (.plain "c0ffee" (by decide))), ("owner", .null)] := by
    simp only [node, Document.entries, List.map_cons, List.map_nil, entryOf, Quoted.text_plain]
    rfl
  have outside : d.entries = [("nodeinfo", node)] := by
    simp only [d, Document.entries, List.map_cons, List.map_nil, entryOf, Quoted.text_plain]
  have regular : Response.Regular d := by
    refine ⟨rfl, fun v mem => ?_, fun v mem => ?_, fun v mem => ?_⟩
    · rw [outside] at mem
      cases List.mem_singleton.mp mem
      refine ⟨by simp [inside], by simp [inside], ?_⟩
      rw [inside]
      intro e mem
      cases List.mem_singleton.mp mem
      exact (Document.isSome_keep? _ .null).mp rfl
    · simp [outside] at mem
    · simp [outside] at mem
  have node_fits : IsNodeInfo node := by
    refine ⟨rfl, by rw [inside]; decide, ?_⟩
    rw [inside]
    simp only [List.forall_mem_cons]
    exact ⟨⟨_, rfl⟩, trivial, fun _ mem => absurd mem List.not_mem_nil⟩
  have fits : IsResponse d := by
    refine ⟨rfl, by rw [outside]; decide, ?_⟩
    rw [outside]
    simp only [List.forall_mem_cons]
    exact ⟨.inr node_fits, fun _ mem => absurd mem List.not_mem_nil⟩
  rcases Response.ofText_meaning regular [] [] with ⟨accepted, sound⟩
  rcases accepted.mpr fits with ⟨r, run⟩
  refine ⟨regular, r, run, ?_⟩
  have field := (sound r run).nodeInfo
  rw [outside] at field
  unfold Response.idIn
  cases present : r.nodeInfo with
  | none =>
    rw [present] at field
    cases field
  | some n =>
    rw [present] at field
    cases field with
    | value _ reports =>
      rw [Option.map_some, reports.nodeId, inside]
      exact congrArg some (Quoted.text_plain _ _)

end MeshTelemetry
