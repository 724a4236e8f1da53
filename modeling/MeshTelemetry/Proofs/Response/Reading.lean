import MeshTelemetry.Proofs.Json.Skipping
import MeshTelemetry.Proofs.Json.Values
import MeshTelemetry.Response.Reader

/-!
# Reading response documents

For every record of a response, `member?` is what a member under a key comes to and `ofDocument?` what
a document comes to as this record; they are given by the meanings of typed values, kept values and
objects. Each reader makes of a document what its `ofDocument?` says. `ofText_document` is the result:
a text is read as a response exactly if it is, but for blanks, a document that comes to one.
-/

namespace MeshTelemetry

open Json (Document Reads)

variable {bound : Nat}

/-! ## The machine -/

/-- What a member of a machine description comes to. -/
def Hardware.member? : String → Document → Option Hardware.Member
  | "model" => fun d => (d.optional? Document.text?).map .model
  | "nproc" => fun d => (d.optional? Document.count?).map .processors
  | _ => fun _ => some .skipped

/-- What a document comes to as a machine description. -/
def Hardware.ofDocument? (d : Document) : Option Hardware :=
  (d.record? (namedIn ["model", "nproc"]) Hardware.member? ["model", "nproc"]).map
    Hardware.ofMembers

theorem Hardware.reads_member (key : String) :
    Reads bound ((Hardware.shape bound).member key) (Hardware.member? key) := by
  unfold Hardware.shape
  dsimp only
  split
  · exact (Json.reads_optional Json.reads_text).map _
  · exact (Json.reads_optional Json.reads_count).map _
  · rename_i model processors
    rw [Hardware.member?.eq_3 key model processors]
    exact Json.reads_skipValue.map _

theorem Hardware.reads_read : Reads bound (Hardware.read bound) Hardware.ofDocument? :=
  (Json.reads_record Hardware.reads_member "model" ["nproc"] _).map _

/-! ## The firmware -/

/-- What a member of a firmware description comes to. -/
def Firmware.member? : String → Document → Option Firmware.Member
  | "base" => fun d => (d.optional? Document.text?).map .base
  | "release" => fun d => (d.optional? Document.text?).map .release
  | _ => fun _ => some .skipped

/-- What a document comes to as a firmware description. -/
def Firmware.ofDocument? (d : Document) : Option Firmware :=
  (d.record? (namedIn ["base", "release"]) Firmware.member? ["base", "release"]).map
    Firmware.ofMembers

theorem Firmware.reads_member (key : String) :
    Reads bound ((Firmware.shape bound).member key) (Firmware.member? key) := by
  unfold Firmware.shape
  dsimp only
  split
  · exact (Json.reads_optional Json.reads_text).map _
  · exact (Json.reads_optional Json.reads_text).map _
  · rename_i base release
    rw [Firmware.member?.eq_3 key base release]
    exact Json.reads_skipValue.map _

theorem Firmware.reads_read : Reads bound (Firmware.read bound) Firmware.ofDocument? :=
  (Json.reads_record Firmware.reads_member "base" ["release"] _).map _

/-! ## The software -/

/-- What a member of a software description comes to. -/
def Software.member? : String → Document → Option Software.Member
  | "firmware" => fun d => (d.optional? Firmware.ofDocument?).map .firmware
  | key => fun d => (d.keep? (Json.nestingLimit - 3)).map (.extra key)

/-- What a document comes to as a software description. -/
def Software.ofDocument? (d : Document) : Option Software :=
  (d.object? (namedIn ["firmware"]) Software.member?).map Software.ofMembers

theorem Software.reads_member (key : String) :
    Reads bound ((Software.shape bound).member key) (Software.member? key) := by
  unfold Software.shape
  dsimp only
  split
  · exact (Json.reads_optional Firmware.reads_read).map _
  · rename_i firmware
    rw [Software.member?.eq_2 key firmware]
    exact (Json.reads_value _).map _

theorem Software.reads_read : Reads bound (Software.read bound) Software.ofDocument? :=
  (Json.reads_object Software.reads_member _).map _

/-! ## The clients -/

/-- What a member of the client counters comes to. -/
def Clients.member? : String → Document → Option Clients.Member
  | "total" => fun d => d.count?.map .total
  | "wifi" => fun d => d.count?.map .wifi
  | "wifi24" => fun d => d.count?.map .wifi24
  | "wifi5" => fun d => d.count?.map .wifi5
  | _ => fun _ => some .skipped

/-- What a document comes to as client counters. -/
def Clients.ofDocument? (d : Document) : Option Clients :=
  (d.record? (namedIn ["total", "wifi", "wifi24", "wifi5"]) Clients.member?
    ["total", "wifi", "wifi24", "wifi5"]).map Clients.ofMembers

theorem Clients.reads_member (key : String) :
    Reads bound ((Clients.shape bound).member key) (Clients.member? key) := by
  unfold Clients.shape
  dsimp only
  split
  · exact Json.reads_count.map _
  · exact Json.reads_count.map _
  · exact Json.reads_count.map _
  · exact Json.reads_count.map _
  · rename_i total wifi wifi24 wifi5
    rw [Clients.member?.eq_5 key total wifi wifi24 wifi5]
    exact Json.reads_skipValue.map _

theorem Clients.reads_read : Reads bound (Clients.read bound) Clients.ofDocument? :=
  (Json.reads_record Clients.reads_member "total" ["wifi", "wifi24", "wifi5"] _).map _

/-! ## Sections -/

/-- What a member of the description of a node comes to. -/
def NodeInfo.member? : String → Document → Option NodeInfo.Member
  | "node_id" => fun d => d.text?.map .nodeId
  | "id" => fun d => d.text?.map .nodeId
  | "hostname" => fun d => (d.optional? Document.text?).map .hostname
  | "hardware" => fun d => (d.optional? Hardware.ofDocument?).map .hardware
  | "software" => fun d => (d.optional? Software.ofDocument?).map .software
  | key => fun d => (d.keep? (Json.nestingLimit - 2)).map (.extra key)

/-- What a document comes to as the description of a node. -/
def NodeInfo.ofDocument? (d : Document) : Option NodeInfo :=
  (d.object? (namedInSection ["hostname", "hardware", "software"]) NodeInfo.member?).map
    NodeInfo.ofMembers

theorem NodeInfo.reads_member (key : String) :
    Reads bound ((NodeInfo.shape bound).member key) (NodeInfo.member? key) := by
  unfold NodeInfo.shape
  dsimp only
  split
  · exact Json.reads_text.map _
  · exact Json.reads_text.map _
  · exact (Json.reads_optional Json.reads_text).map _
  · exact (Json.reads_optional Hardware.reads_read).map _
  · exact (Json.reads_optional Software.reads_read).map _
  · rename_i nodeId id hostname hardware software
    rw [NodeInfo.member?.eq_6 key nodeId id hostname hardware software]
    exact (Json.reads_value _).map _

theorem NodeInfo.reads_read : Reads bound (NodeInfo.read bound) NodeInfo.ofDocument? :=
  (Json.reads_object NodeInfo.reads_member _).map _

/-- What a member of the measured values comes to. -/
def Statistics.member? : String → Document → Option Statistics.Member
  | "node_id" => fun d => d.text?.map .nodeId
  | "id" => fun d => d.text?.map .nodeId
  | "uptime" => fun d => (d.optional? Document.double?).map .uptime
  | "idletime" => fun d => (d.optional? Document.double?).map .idleTime
  | "loadavg" => fun d => (d.optional? Document.double?).map .loadAverage
  | "clients" => fun d => (d.optional? Clients.ofDocument?).map .clients
  | key => fun d => (d.keep? (Json.nestingLimit - 2)).map (.extra key)

/-- What a document comes to as measured values. -/
def Statistics.ofDocument? (d : Document) : Option Statistics :=
  (d.object? (namedInSection ["uptime", "idletime", "loadavg", "clients"]) Statistics.member?).map
    Statistics.ofMembers

theorem Statistics.reads_member (key : String) :
    Reads bound ((Statistics.shape bound).member key) (Statistics.member? key) := by
  unfold Statistics.shape
  dsimp only
  split
  · exact Json.reads_text.map _
  · exact Json.reads_text.map _
  · exact (Json.reads_optional Json.reads_double).map _
  · exact (Json.reads_optional Json.reads_double).map _
  · exact (Json.reads_optional Json.reads_double).map _
  · exact (Json.reads_optional Clients.reads_read).map _
  · rename_i nodeId id uptime idleTime loadAverage clients
    rw [Statistics.member?.eq_7 key nodeId id uptime idleTime loadAverage clients]
    exact (Json.reads_value _).map _

theorem Statistics.reads_read : Reads bound (Statistics.read bound) Statistics.ofDocument? :=
  (Json.reads_object Statistics.reads_member _).map _

/-- What a member of the section about neighbours comes to. -/
def Neighbours.member? : String → Document → Option Neighbours.Member
  | "node_id" => fun d => d.text?.map .nodeId
  | "id" => fun d => d.text?.map .nodeId
  | key => fun d => (d.keep? (Json.nestingLimit - 2)).map (.extra key)

/-- What a document comes to as the section about neighbours. -/
def Neighbours.ofDocument? (d : Document) : Option Neighbours :=
  (d.object? (namedInSection []) Neighbours.member?).map Neighbours.ofMembers

theorem Neighbours.reads_member (key : String) :
    Reads bound ((Neighbours.shape bound).member key) (Neighbours.member? key) := by
  unfold Neighbours.shape
  dsimp only
  split
  · exact Json.reads_text.map _
  · exact Json.reads_text.map _
  · rename_i nodeId id
    rw [Neighbours.member?.eq_3 key nodeId id]
    exact (Json.reads_value _).map _

theorem Neighbours.reads_read : Reads bound (Neighbours.read bound) Neighbours.ofDocument? :=
  (Json.reads_object Neighbours.reads_member _).map _

/-! ## Responses -/

/-- What a member of a response comes to. -/
def Response.member? : String → Document → Option Response.Member
  | "nodeinfo" => fun d => (d.optional? NodeInfo.ofDocument?).map .nodeInfo
  | "statistics" => fun d => (d.optional? Statistics.ofDocument?).map .statistics
  | "neighbours" => fun d => (d.optional? Neighbours.ofDocument?).map .neighbours
  | _ => fun _ => some .skipped

/-- What a document comes to as a response. -/
def Response.ofDocument? (d : Document) : Option Response :=
  (d.record? (namedIn ["nodeinfo", "statistics", "neighbours"]) Response.member?
    ["nodeinfo", "statistics", "neighbours"]).map Response.ofMembers

theorem Response.reads_member (key : String) :
    Reads bound ((Response.shape bound).member key) (Response.member? key) := by
  unfold Response.shape
  dsimp only
  split
  · exact (Json.reads_optional NodeInfo.reads_read).map _
  · exact (Json.reads_optional Statistics.reads_read).map _
  · exact (Json.reads_optional Neighbours.reads_read).map _
  · rename_i nodeInfo statistics neighbours
    rw [Response.member?.eq_4 key nodeInfo statistics neighbours]
    exact Json.reads_skipValue.map _

theorem Response.reads_read : Reads bound (Response.read bound) Response.ofDocument? :=
  (Json.reads_record Response.reads_member "nodeinfo" ["statistics", "neighbours"] _).map _

/-- A document between blanks is read as the response that it comes to. -/
theorem Response.ofText_document (d : Document) (before after : Json.Gap) (r : Response) :
    Response.ofText (Json.padded before d.bytes after) = .ok r ↔
      Response.ofDocument? d = some r := by
  have short := Json.length_padded before d.bytes after
  exact Json.readWhole_document Response.reads_read (Nat.le_succ_of_le short) before after r

end MeshTelemetry
