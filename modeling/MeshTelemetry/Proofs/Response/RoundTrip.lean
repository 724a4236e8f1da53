import Mathlib
import MeshTelemetry.Datagram
import MeshTelemetry.Proofs.Deflate.Stored
import MeshTelemetry.Proofs.Json.Compact
import MeshTelemetry.Proofs.Response.Kept
import MeshTelemetry.Response.Writer

/-!
# Reading what was written

A response is written as one document: typed members in a fixed order, without those that are missing,
then the untyped ones. Record by record, `exists_document` says that this document is read as the record
it was written for. No key of a written record stands twice in it, because its typed keys are written
once each and the untyped members of a kept record have none of them.

`decodePayload_encode` puts this together with what is kept of a response and with streams of stored
blocks: whatever payload a response was read from, it is read again from every such stream of its text.
-/

namespace MeshTelemetry

open Json

/-! ## Written records -/

section

variable {μ α : Type} {f : String → Document → Option μ} {name? : String → Option String}
  {ms others : Members}

/-- A member that may be left out comes to a part if its value is written as a document that does. -/
theorem spells_present {key : String} {form : α → Value} {x : Option α} {part : α → μ}
    (each : ∀ v, x = some v → ∃ d : Document, d.bytes = (form v).write ∧ f key d = some (part v)) :
    Spells f (present key form x) (x.map part).toList := by
  cases x with
  | none => exact spells_nil
  | some v =>
    obtain ⟨d, written, read⟩ := each v rfl
    exact spells_nil.cons written read

theorem keys_present (key : String) (form : α → Value) (x : Option α) :
    ((present key form x).map (·.1)).Sublist [key] := by
  cases x with
  | none => exact List.nil_sublist _
  | some v => exact List.Sublist.refl _

theorem keys_always (key : String) (v : Value) : ([(key, v)].map (·.1)).Sublist [key] :=
  List.Sublist.refl _

theorem keys_append {typed more : List String}
    (first : (ms.map (·.1)).Sublist typed) (second : (others.map (·.1)).Sublist more) :
    ((ms ++ others).map (·.1)).Sublist (typed ++ more) := by
  rw [List.map_append]
  exact first.append second

/-- An object is read as its members come to if no name occurs twice among their keys. -/
theorem Json.Spells.exists_record {parts : List μ} (spells : Spells f ms parts)
    (once : ((ms.map (·.1)).filterMap name?).Nodup) (names : List String) :
    ∃ d : Document, d.bytes = (Value.object ms).write ∧ d.object? name? f = some parts ∧
      d.record? name? f names = some parts := by
  obtain ⟨members, bytes, keys, all⟩ := spells.exists_object
  have fields : fields? name? f [] (members.map entryOf) = some parts := by
    refine fields?_eq_some_iff.mpr ⟨?_, fun _ _ => List.not_mem_nil, all⟩
    rwa [← keys, List.filterMap_map] at once
  exact ⟨.object members [], bytes, fields, fields⟩

/-- No name occurs twice among some of the typed keys in their order. -/
theorem nodup_typed (name? : String → Option String) {typed : List String}
    (inside : (ms.map (·.1)).Sublist typed) (once : (typed.filterMap name?).Nodup) :
    ((ms.map (·.1)).filterMap name?).Nodup :=
  once.sublist (inside.filterMap name?)

/-- Members without names do not make a name occur twice. -/
theorem nodup_append (once : ((ms.map (·.1)).filterMap name?).Nodup)
    (nameless : ∀ m ∈ others, name? m.1 = none) :
    (((ms ++ others).map (·.1)).filterMap name?).Nodup := by
  have rest : (others.map (·.1)).filterMap name? = [] := by
    rw [List.filterMap_eq_nil_iff]
    intro key mem
    obtain ⟨m, inside, rfl⟩ := List.mem_map.mp mem
    exact nameless m inside
  rw [List.map_append, List.filterMap_append, rest, List.append_nil]
  exact once

end

/-! ## Values of fields -/

theorem exists_text {s : String} : ∃ d : Document, d.bytes = (Value.text s).write ∧
    d.text? = some s := by
  obtain ⟨q, text, bytes⟩ := exists_quoted s
  refine ⟨.text q, ?_, congrArg some text⟩
  rw [Document.bytes, Value.write, bytes]

theorem exists_count (n : UInt32) : ∃ d : Document, d.bytes = (countValue n).write ∧
    d.count? = some n := by
  have small : n.toNat < UInt32.size := n.toNat_lt
  unfold UInt32.size at small
  obtain ⟨m, bytes, value⟩ := exists_numeral_integer (n := n.toNat) ⟨by omega, by omega⟩
  refine ⟨.number m, ?_, ?_⟩
  · rw [Document.bytes, bytes, countValue, Value.write]
  · rw [Document.count?, ← value?_bind_count, value, Option.bind_some, Number.count?,
      if_pos ⟨by omega, by omega⟩, Int.toNat_natCast, UInt32.ofNat_toNat]

theorem exists_double {x : Float} (law : ∀ y ∈ (doubleValue x).floats, ReadsBack y) :
    ∃ d : Document, d.bytes = (doubleValue x).write ∧ d.double? = some x := by
  rw [doubleValue, Value.floats] at law
  obtain ⟨m, bytes, value⟩ := exists_numeral_float (law x (List.mem_singleton_self x))
  refine ⟨.number m, ?_, ?_⟩
  · rw [Document.bytes, bytes, doubleValue, Value.write]
  · rw [Document.double?, value]
    rfl

/-- A value that may be missing is read as present from what is written for it, which is not null. -/
theorem exists_optional {α μ : Type} {f : Document → Option α} (null : f .null = none) {v : Value}
    {x : α} (found : ∃ d : Document, d.bytes = v.write ∧ f d = some x) (part : Option α → μ) :
    ∃ d : Document, d.bytes = v.write ∧ (d.optional? f).map part = some (part (some x)) := by
  obtain ⟨d, bytes, read⟩ := found
  refine ⟨d, bytes, ?_⟩
  cases d with
  | null => cases null.symm.trans read
  | _ => exact congrArg (fun o => (o.map some).map part) read

/-! ## Records in a section -/

theorem Hardware.exists_document (h : Hardware) :
    ∃ d : Document, d.bytes = h.toJson.write ∧ Hardware.ofDocument? d = some h := by
  obtain ⟨model, processors⟩ := h
  have models : Spells Hardware.member? (present "model" .text model) _ :=
    spells_present fun v _ => exists_optional rfl exists_text Hardware.Member.model
  have counts : Spells Hardware.member? (present "nproc" countValue processors) _ :=
    spells_present fun v _ => exists_optional rfl (exists_count v) Hardware.Member.processors
  have keys := keys_append (keys_present "model" Value.text model)
    (keys_present "nproc" countValue processors)
  obtain ⟨d, bytes, -, read⟩ := (models.append counts).exists_record
    (nodup_typed (namedIn ["model", "nproc"]) keys (by decide)) ["model", "nproc"]
  refine ⟨d, bytes, ?_⟩
  rw [Hardware.ofDocument?, read]
  -- A missing field is not written, and what is not found among the parts is missing.
  cases model <;> cases processors <;> rfl

theorem Firmware.exists_document (f : Firmware) :
    ∃ d : Document, d.bytes = f.toJson.write ∧ Firmware.ofDocument? d = some f := by
  obtain ⟨base, release⟩ := f
  have bases : Spells Firmware.member? (present "base" .text base) _ :=
    spells_present fun v _ => exists_optional rfl exists_text Firmware.Member.base
  have releases : Spells Firmware.member? (present "release" .text release) _ :=
    spells_present fun v _ => exists_optional rfl exists_text Firmware.Member.release
  have keys := keys_append (keys_present "base" Value.text base)
    (keys_present "release" Value.text release)
  obtain ⟨d, bytes, -, read⟩ := (bases.append releases).exists_record
    (nodup_typed (namedIn ["base", "release"]) keys (by decide)) ["base", "release"]
  refine ⟨d, bytes, ?_⟩
  rw [Firmware.ofDocument?, read]
  cases base <;> cases release <;> rfl

/-- A member that is always written comes to a part if its value is written as a document that does. -/
theorem spells_always {μ α : Type} {f : String → Document → Option μ} {g : Document → Option α}
    {key : String} {v : Value} {x : α} {part : α → μ} (member : f key = fun d => (g d).map part)
    (found : ∃ d : Document, d.bytes = v.write ∧ g d = some x) : Spells f [(key, v)] [part x] := by
  obtain ⟨d, bytes, read⟩ := found
  refine spells_nil.cons bytes ?_
  rw [member]
  exact congrArg (Option.map part) read

theorem Clients.exists_document (c : Clients) :
    ∃ d : Document, d.bytes = c.toJson.write ∧ Clients.ofDocument? d = some c := by
  have total : Spells Clients.member? [("total", countValue c.total)] _ :=
    spells_always rfl (exists_count c.total)
  have wifi : Spells Clients.member? [("wifi", countValue c.wifi)] _ :=
    spells_always rfl (exists_count c.wifi)
  have wifi24 : Spells Clients.member? [("wifi24", countValue c.wifi24)] _ :=
    spells_always rfl (exists_count c.wifi24)
  have wifi5 : Spells Clients.member? [("wifi5", countValue c.wifi5)] _ :=
    spells_always rfl (exists_count c.wifi5)
  let keys := ["total", "wifi", "wifi24", "wifi5"]
  have once : (keys.filterMap (namedIn keys)).Nodup := by decide
  obtain ⟨d, bytes, -, read⟩ :=
    (total.append (wifi.append (wifi24.append wifi5))).exists_record once keys
  refine ⟨d, bytes, ?_⟩
  rw [Clients.ofDocument?, read]
  rfl

/-! ## Untyped members -/

/-- The law for an object is the law for the values of its members. -/
theorem law_of_mem {ms : Members} (law : ∀ x ∈ (Value.object ms).floats, ReadsBack x)
    {m : String × Value} (mem : m ∈ ms) : ∀ x ∈ m.2.floats, ReadsBack x := by
  intro x inside
  refine law x ?_
  rw [Value.floats]
  exact List.mem_flatMap.mpr ⟨m, mem, inside⟩

/-- Untyped members are read as they were kept. -/
theorem spells_extra {μ : Type} {f : String → Document → Option μ} {keys : List String}
    {levels : Nat} {part : String → Value → μ} {ms : Members} (kept : KeptMembers keys levels ms)
    (law : ∀ m ∈ ms, ∀ x ∈ m.2.floats, ReadsBack x)
    (member : ∀ key ∉ keys, ∀ d, f key d = (d.keep? levels).map (part key)) :
    Spells f ms (ms.map fun m => part m.1 m.2) := by
  refine spells_of_forall fun m mem => ?_
  obtain ⟨d, bytes, read⟩ := Json.exists_document (kept.kept m mem) (law m mem)
  exact ⟨d, bytes, by rw [member m.1 (kept.untyped m mem), read]; rfl⟩

/-- No typed field is found among untyped members. -/
theorem findSome?_extra {μ α : Type} {pick : μ → Option α} {part : String → Value → μ}
    (other : ∀ key v, pick (part key v) = none) (ms : Members) :
    (ms.map fun m => part m.1 m.2).findSome? pick = none := by
  rw [List.findSome?_eq_none_iff]
  intro x mem
  obtain ⟨m, -, rfl⟩ := List.mem_map.mp mem
  exact other m.1 m.2

theorem Software.exists_document {s : Software} (kept : s.Kept)
    (law : ∀ x ∈ s.toJson.floats, ReadsBack x) :
    ∃ d : Document, d.bytes = s.toJson.write ∧ Software.ofDocument? d = some s := by
  obtain ⟨firmware, extra⟩ := s
  have firmwares : Spells Software.member? (present "firmware" Firmware.toJson firmware) _ :=
    spells_present fun v _ => exists_optional rfl v.exists_document Software.Member.firmware
  have extras : Spells Software.member? extra (extra.map fun m => .extra m.1 m.2) :=
    spells_extra kept (fun m mem => law_of_mem law (List.mem_append_right _ mem))
      fun key other d => by rw [Software.member?.eq_2 key (by simpa using other)]
  -- Only typed keys can be repeated, and the untyped members that are kept have none of them.
  have once := nodup_append (nodup_typed (namedIn ["firmware"])
    (keys_present "firmware" Firmware.toJson firmware) (by decide))
    fun m mem => if_neg (kept.untyped m mem)
  obtain ⟨d, bytes, read, -⟩ := (firmwares.append extras).exists_record once []
  refine ⟨d, bytes, ?_⟩
  -- Sorting them once more changes nothing.
  have ascending := Entries.ofList_eq_self kept.ascending
  rw [Software.ofDocument?, read]
  cases firmware <;> simp [Software.ofMembers, findSome?_extra, ascending]

/-! ## Sections -/

theorem namedInSection_eq_none {names : List String} {key : String}
    (other : key ∉ "node_id" :: "id" :: names) : namedInSection names key = none := by
  simp only [List.mem_cons, not_or] at other
  have untyped : key ∉ "node_id" :: names := by
    simp only [List.mem_cons, not_or]
    exact ⟨other.1, other.2.2⟩
  rw [namedInSection, if_neg other.2.1, namedIn, if_neg untyped]

theorem mem_present {α : Type} {key : String} {form : α → Value} {x : Option α} {v : α}
    (eq : x = some v) : (key, form v) ∈ present key form x := by
  subst eq
  exact List.mem_singleton_self _

theorem NodeInfo.exists_document {n : NodeInfo} (kept : n.Kept)
    (law : ∀ x ∈ n.toJson.floats, ReadsBack x) :
    ∃ d : Document, d.bytes = n.toJson.write ∧ NodeInfo.ofDocument? d = some n := by
  obtain ⟨nodeId, hostname, hardware, software, extra⟩ := n
  have inside {m : String × Value} := law_of_mem law (m := m)
  have nodeIds : Spells NodeInfo.member? [("node_id", .text nodeId)] [.nodeId nodeId] :=
    spells_always rfl exists_text
  have hostnames : Spells NodeInfo.member? (present "hostname" .text hostname) _ :=
    spells_present fun v _ => exists_optional rfl exists_text NodeInfo.Member.hostname
  have hardwares : Spells NodeInfo.member? (present "hardware" Hardware.toJson hardware) _ :=
    spells_present fun v _ => exists_optional rfl v.exists_document NodeInfo.Member.hardware
  have described (v : Software) (eq : software = some v) :
      ∃ d : Document, d.bytes = v.toJson.write ∧ Software.ofDocument? d = some v :=
    Software.exists_document (kept.software v eq)
      (inside (List.mem_append_left _ (List.mem_append_right _ (mem_present eq))))
  have softwares : Spells NodeInfo.member? (present "software" Software.toJson software) _ :=
    spells_present fun v eq => exists_optional rfl (described v eq) NodeInfo.Member.software
  have extras : Spells NodeInfo.member? extra (extra.map fun m => .extra m.1 m.2) := by
    refine spells_extra kept.extra (fun m mem => inside (List.mem_append_right _ mem)) ?_
    intro key other d
    simp only [NodeInfo.keys, List.mem_cons, List.not_mem_nil, or_false, not_or] at other
    obtain ⟨nodeId, id, hostname, hardware, software⟩ := other
    rw [NodeInfo.member?.eq_6 key nodeId id hostname hardware software]
  have keys := keys_append (keys_append (keys_append
    (keys_always "node_id" (.text nodeId))
    (keys_present "hostname" Value.text hostname))
    (keys_present "hardware" Hardware.toJson hardware))
    (keys_present "software" Software.toJson software)
  have once := nodup_append
    (nodup_typed (namedInSection ["hostname", "hardware", "software"]) keys (by decide))
    fun m mem => namedInSection_eq_none (kept.extra.untyped m mem)
  obtain ⟨d, bytes, read, -⟩ :=
    ((((nodeIds.append hostnames).append hardwares).append softwares).append extras).exists_record
      once []
  refine ⟨d, bytes, ?_⟩
  have ascending := Entries.ofList_eq_self kept.extra.ascending
  rw [NodeInfo.ofDocument?, read]
  cases hostname <;> cases hardware <;> cases software <;>
    simp [NodeInfo.ofMembers, findSome?_extra, ascending]

theorem Statistics.exists_document {s : Statistics} (kept : s.Kept)
    (law : ∀ x ∈ s.toJson.floats, ReadsBack x) :
    ∃ d : Document, d.bytes = s.toJson.write ∧ Statistics.ofDocument? d = some s := by
  obtain ⟨nodeId, uptime, idleTime, loadAverage, clients, extra⟩ := s
  -- The typed doubles stand among the written members like any others.
  have inside {m : String × Value} := law_of_mem law (m := m)
  have nodeIds : Spells Statistics.member? [("node_id", .text nodeId)] [.nodeId nodeId] :=
    spells_always rfl exists_text
  have uptimes : Spells Statistics.member? (present "uptime" doubleValue uptime) _ :=
    spells_present fun v eq =>
      exists_optional rfl (exists_double (inside (m := ("uptime", doubleValue v))
        (by simp [mem_present eq]))) Statistics.Member.uptime
  have idleTimes : Spells Statistics.member? (present "idletime" doubleValue idleTime) _ :=
    spells_present fun v eq =>
      exists_optional rfl (exists_double (inside (m := ("idletime", doubleValue v))
        (by simp [mem_present eq]))) Statistics.Member.idleTime
  have loads : Spells Statistics.member? (present "loadavg" doubleValue loadAverage) _ :=
    spells_present fun v eq =>
      exists_optional rfl (exists_double (inside (m := ("loadavg", doubleValue v))
        (by simp [mem_present eq]))) Statistics.Member.loadAverage
  have counts : Spells Statistics.member? (present "clients" Clients.toJson clients) _ :=
    spells_present fun v _ => exists_optional rfl v.exists_document Statistics.Member.clients
  have extras : Spells Statistics.member? extra (extra.map fun m => .extra m.1 m.2) := by
    refine spells_extra kept (fun m mem => inside (List.mem_append_right _ mem)) ?_
    intro key other d
    simp only [Statistics.keys, List.mem_cons, List.not_mem_nil, or_false, not_or] at other
    obtain ⟨nodeId, id, uptime, idleTime, loadAverage, clients⟩ := other
    rw [Statistics.member?.eq_7 key nodeId id uptime idleTime loadAverage clients]
  have keys := keys_append (keys_append (keys_append (keys_append
    (keys_always "node_id" (.text nodeId))
    (keys_present "uptime" doubleValue uptime))
    (keys_present "idletime" doubleValue idleTime))
    (keys_present "loadavg" doubleValue loadAverage))
    (keys_present "clients" Clients.toJson clients)
  have once := nodup_append
    (nodup_typed (namedInSection ["uptime", "idletime", "loadavg", "clients"]) keys (by decide))
    fun m mem => namedInSection_eq_none (kept.untyped m mem)
  obtain ⟨d, bytes, read, -⟩ :=
    (((((nodeIds.append uptimes).append idleTimes).append loads).append counts).append
      extras).exists_record once []
  refine ⟨d, bytes, ?_⟩
  have ascending := Entries.ofList_eq_self kept.ascending
  rw [Statistics.ofDocument?, read]
  cases uptime <;> cases idleTime <;> cases loadAverage <;> cases clients <;>
    simp [Statistics.ofMembers, findSome?_extra, ascending]

theorem Neighbours.exists_document {n : Neighbours} (kept : n.Kept)
    (law : ∀ x ∈ n.toJson.floats, ReadsBack x) :
    ∃ d : Document, d.bytes = n.toJson.write ∧ Neighbours.ofDocument? d = some n := by
  obtain ⟨nodeId, extra⟩ := n
  have nodeIds : Spells Neighbours.member? [("node_id", .text nodeId)] [.nodeId nodeId] :=
    spells_always rfl exists_text
  have extras : Spells Neighbours.member? extra (extra.map fun m => .extra m.1 m.2) := by
    refine spells_extra kept (fun m mem => law_of_mem law (List.mem_cons_of_mem _ mem)) ?_
    intro key other d
    simp only [Neighbours.keys, List.mem_cons, List.not_mem_nil, or_false, not_or] at other
    rw [Neighbours.member?.eq_3 key other.1 other.2]
  have once := nodup_append
    (nodup_typed (namedInSection []) (keys_always "node_id" (.text nodeId)) (by decide))
    fun m mem => namedInSection_eq_none (kept.untyped m mem)
  obtain ⟨d, bytes, read, -⟩ := (nodeIds.append extras).exists_record once []
  refine ⟨d, bytes, ?_⟩
  have ascending := Entries.ofList_eq_self kept.ascending
  rw [Neighbours.ofDocument?, read]
  simp [Neighbours.ofMembers, ascending]

/-! ## Responses -/

theorem Response.exists_document {r : Response} (kept : r.Kept)
    (law : ∀ x ∈ r.toJson.floats, ReadsBack x) :
    ∃ d : Document, d.bytes = r.toJson.write ∧ Response.ofDocument? d = some r := by
  obtain ⟨nodeInfo, statistics, neighbours⟩ := r
  have inside {m : String × Value} := law_of_mem law (m := m)
  have described (n : NodeInfo) (eq : nodeInfo = some n) :
      ∃ d : Document, d.bytes = n.toJson.write ∧ NodeInfo.ofDocument? d = some n :=
    NodeInfo.exists_document (kept.nodeInfo n eq)
      (inside (List.mem_append_left _ (List.mem_append_left _ (mem_present eq))))
  have measured (s : Statistics) (eq : statistics = some s) :
      ∃ d : Document, d.bytes = s.toJson.write ∧ Statistics.ofDocument? d = some s :=
    Statistics.exists_document (kept.statistics s eq)
      (inside (List.mem_append_left _ (List.mem_append_right _ (mem_present eq))))
  have surrounded (n : Neighbours) (eq : neighbours = some n) :
      ∃ d : Document, d.bytes = n.toJson.write ∧ Neighbours.ofDocument? d = some n :=
    Neighbours.exists_document (kept.neighbours n eq)
      (inside (List.mem_append_right _ (mem_present eq)))
  have nodeInfos : Spells Response.member? (present "nodeinfo" NodeInfo.toJson nodeInfo) _ :=
    spells_present fun n eq => exists_optional rfl (described n eq) Response.Member.nodeInfo
  have statistics_ : Spells Response.member? (present "statistics" Statistics.toJson statistics) _ :=
    spells_present fun s eq => exists_optional rfl (measured s eq) Response.Member.statistics
  have neighbours_ : Spells Response.member? (present "neighbours" Neighbours.toJson neighbours) _ :=
    spells_present fun n eq => exists_optional rfl (surrounded n eq) Response.Member.neighbours
  have keys := keys_append (keys_append (keys_present "nodeinfo" NodeInfo.toJson nodeInfo)
    (keys_present "statistics" Statistics.toJson statistics))
    (keys_present "neighbours" Neighbours.toJson neighbours)
  have once := nodup_typed (namedIn ["nodeinfo", "statistics", "neighbours"]) keys (by decide)
  obtain ⟨d, bytes, -, read⟩ := ((nodeInfos.append statistics_).append neighbours_).exists_record
    once ["nodeinfo", "statistics", "neighbours"]
  refine ⟨d, bytes, ?_⟩
  rw [Response.ofDocument?, read]
  cases nodeInfo <;> cases statistics <;> cases neighbours <;> rfl

/-- A response in the form in which it is kept is read from what is written for it. -/
theorem Response.ofText_write {r : Response} (kept : r.Kept)
    (law : ∀ x ∈ r.toJson.floats, ReadsBack x) : Response.ofText r.toJson.write = .ok r := by
  obtain ⟨d, bytes, read⟩ := Response.exists_document kept law
  have whole := (Response.ofText_document d [] [] r).mpr read
  rwa [padded, Gap.bytes_nil, List.append_nil, List.nil_append, bytes] at whole

/-! ## Payloads -/

/-- A payload of stored blocks holds the response that is read from the bytes in them. -/
theorem decodePayload_storedStream {blocks : List (List UInt8)} {last : List UInt8} {r : Response}
    (fits : Deflate.FitStored blocks last)
    (read : Response.ofText (blocks.flatten ++ last) = .ok r) :
    decodePayload (Deflate.storedStream blocks last) = .ok r := by
  unfold decodePayload
  rw [Deflate.inflate_storedStream fits]
  dsimp only
  rw [read]
  rfl

theorem Response.kept_of_decodePayload {payload : List UInt8} {r : Response}
    (decoded : decodePayload payload = .ok r) : r.Kept := by
  unfold decodePayload at decoded
  split at decoded
  · cases decoded
  · rename_i text inflated
    cases run : Response.ofText text with
    | error fault =>
      rw [run] at decoded
      cases decoded
    | ok other =>
      rw [run] at decoded
      cases decoded
      exact Response.kept_of_ofText run

/-- Whatever payload a response was decoded from, if the texts of the doubles in it are read as these
doubles, it is decoded again from its own text, into whatever stored blocks this text is cut. -/
theorem decodePayload_encode {payload : List UInt8} {r : Response}
    (decoded : decodePayload payload = .ok r) (law : ∀ x ∈ r.toJson.floats, ReadsBack x) :
    decodePayload (Deflate.store r.toJson.write) = .ok r ∧
      ∀ blocks last, Deflate.FitStored blocks last → blocks.flatten ++ last = r.toJson.write →
        decodePayload (Deflate.storedStream blocks last) = .ok r := by
  have read : Response.ofText r.toJson.write = .ok r :=
    Response.ofText_write (Response.kept_of_decodePayload decoded) law
  have again (blocks : List (List UInt8)) (last : List UInt8)
      (fits : Deflate.FitStored blocks last) (whole : blocks.flatten ++ last = r.toJson.write) :
      decodePayload (Deflate.storedStream blocks last) = .ok r :=
    decodePayload_storedStream fits (by rw [whole, read])
  obtain ⟨blocks, last, fits, whole, stream⟩ := Deflate.exists_storedStream_store r.toJson.write
  refine ⟨?_, again⟩
  rw [stream]
  exact again blocks last fits whole

set_option maxRecDepth 1000 in
/-- A list of sections behind an empty block. Its statistics use the short name for the identifier,
null for a value, a list for the clients, and a key that is repeated. -/
theorem decodePayload_encode_list :
    let text := Text.utf8 ("[null,\x7b\"id\":\"c0ffee000001\",\"uptime\":null," ++
      "\"clients\":[3,2,1,0],\"x\":1,\"x\":2\x7d,null]")
    let statistics : Statistics :=
      { nodeId := "c0ffee000001", uptime := none, idleTime := none, loadAverage := none,
        clients := some ⟨3, 2, 1, 0⟩, extra := [("x", .number (.integer 2))] }
    let r : Response := ⟨none, some statistics, none⟩
    decodePayload (Deflate.storedStream [[]] text) = .ok r ∧
      decodePayload (Deflate.store r.toJson.write) = .ok r := by
  intro text statistics r
  have fits : Deflate.FitStored [[]] text := by
    unfold Deflate.FitStored
    decide +kernel
  have read : Response.ofText text = .ok r := by
    unfold text r statistics
    cbv
  have decoded : decodePayload (Deflate.storedStream [[]] text) = .ok r :=
    decodePayload_storedStream fits read
  have integers : r.toJson.floats = [] := by
    simp [r, statistics, Response.toJson, Statistics.toJson, Clients.toJson, present, countValue,
      Value.floats, Number.floats]
  have law : ∀ x ∈ r.toJson.floats, ReadsBack x := by
    rw [integers]
    exact fun _ mem => absurd mem List.not_mem_nil
  exact ⟨decoded, (decodePayload_encode decoded law).1⟩

end MeshTelemetry
