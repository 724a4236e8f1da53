import MeshTelemetry.Json.Reader
import MeshTelemetry.Response.Basic

/-!
Reading a response from its JSON text.

Each kind of record has an inductive type of its members. An object is read into the list of its
members, in their order, and the record is put together from that list. A typed key may occur once.
Members under other keys are kept in the sections and in the software part and skipped elsewhere.
-/

namespace MeshTelemetry

open Json (Reader Shape)

/-- The typed keys of a record, which have no other spelling. -/
def namedIn (names : List String) (key : String) : Option String :=
  if key ∈ names then some key else none

/-- The typed keys of a section; that of the identifier has two spellings. -/
def namedInSection (names : List String) (key : String) : Option String :=
  if key = "id" then some "node_id" else namedIn ("node_id" :: names) key

/-! ## The machine -/

inductive Hardware.Member
  | model (value : Option String)
  | processors (value : Option UInt32)
  | skipped

def Hardware.shape (bound : Nat) : Shape Hardware.Member where
  fieldName := namedIn ["model", "nproc"]
  member
    | "model" => return .model (← Json.optional Json.text)
    | "nproc" => return .processors (← Json.optional Json.count)
    | _ => do
      Json.skipValue bound
      return .skipped

def Hardware.ofMembers (ms : List Hardware.Member) : Hardware where
  model := (ms.findSome? fun | .model v => some v | _ => none).join
  processors := (ms.findSome? fun | .processors v => some v | _ => none).join

/-- A machine description, as an object or as the list of its fields. -/
def Hardware.read (bound : Nat) : Reader Hardware := do
  let shape := Hardware.shape bound
  return .ofMembers
    (← Json.record shape (["model", "nproc"].map shape.member) "struct Hardware" bound)

/-! ## The firmware -/

inductive Firmware.Member
  | base (value : Option String)
  | release (value : Option String)
  | skipped

def Firmware.shape (bound : Nat) : Shape Firmware.Member where
  fieldName := namedIn ["base", "release"]
  member
    | "base" => return .base (← Json.optional Json.text)
    | "release" => return .release (← Json.optional Json.text)
    | _ => do
      Json.skipValue bound
      return .skipped

def Firmware.ofMembers (ms : List Firmware.Member) : Firmware where
  base := (ms.findSome? fun | .base v => some v | _ => none).join
  release := (ms.findSome? fun | .release v => some v | _ => none).join

/-- A firmware description, as an object or as the list of its fields. -/
def Firmware.read (bound : Nat) : Reader Firmware := do
  let shape := Firmware.shape bound
  return .ofMembers
    (← Json.record shape (["base", "release"].map shape.member) "struct Firmware" bound)

/-! ## The software -/

inductive Software.Member
  | firmware (value : Option Firmware)
  | extra (key : String) (value : Json.Value)

/-- How a software description is read. Its members lie inside three brackets. -/
def Software.shape (bound : Nat) : Shape Software.Member where
  fieldName := namedIn ["firmware"]
  member
    | "firmware" => return .firmware (← Json.optional (Firmware.read bound))
    | key => return .extra key (← Json.value bound (Json.nestingLimit - 3))

def Software.ofMembers (ms : List Software.Member) : Software where
  firmware := (ms.findSome? fun | .firmware v => some v | _ => none).join
  extra := Entries.ofList (ms.filterMap fun | .extra k v => some (k, v) | _ => none)

def Software.read (bound : Nat) : Reader Software := do
  return .ofMembers (← Json.object (Software.shape bound) "struct Software" bound)

/-! ## The clients -/

inductive Clients.Member
  | total (value : UInt32)
  | wifi (value : UInt32)
  | wifi24 (value : UInt32)
  | wifi5 (value : UInt32)
  | skipped

def Clients.shape (bound : Nat) : Shape Clients.Member where
  fieldName := namedIn ["total", "wifi", "wifi24", "wifi5"]
  member
    | "total" => return .total (← Json.count)
    | "wifi" => return .wifi (← Json.count)
    | "wifi24" => return .wifi24 (← Json.count)
    | "wifi5" => return .wifi5 (← Json.count)
    | _ => do
      Json.skipValue bound
      return .skipped

/-- The counters that some members give; a missing one is zero. -/
def Clients.ofMembers (ms : List Clients.Member) : Clients where
  total := (ms.findSome? fun | .total v => some v | _ => none).getD 0
  wifi := (ms.findSome? fun | .wifi v => some v | _ => none).getD 0
  wifi24 := (ms.findSome? fun | .wifi24 v => some v | _ => none).getD 0
  wifi5 := (ms.findSome? fun | .wifi5 v => some v | _ => none).getD 0

/-- Client counters, as an object or as the list of its fields. -/
def Clients.read (bound : Nat) : Reader Clients := do
  let shape := Clients.shape bound
  return .ofMembers
    (← Json.record shape (["total", "wifi", "wifi24", "wifi5"].map shape.member)
      "struct Clients" bound)

/-! ## Sections -/

inductive NodeInfo.Member
  | nodeId (value : String)
  | hostname (value : Option String)
  | hardware (value : Option Hardware)
  | software (value : Option Software)
  | extra (key : String) (value : Json.Value)

/-- How the description of a node is read. Members of a section lie inside two brackets. -/
def NodeInfo.shape (bound : Nat) : Shape NodeInfo.Member where
  fieldName := namedInSection ["hostname", "hardware", "software"]
  member
    | "node_id" => return .nodeId (← Json.text)
    | "id" => return .nodeId (← Json.text)
    | "hostname" => return .hostname (← Json.optional Json.text)
    | "hardware" => return .hardware (← Json.optional (Hardware.read bound))
    | "software" => return .software (← Json.optional (Software.read bound))
    | key => return .extra key (← Json.value bound (Json.nestingLimit - 2))

/-- The description that some members give; a missing identifier is empty. -/
def NodeInfo.ofMembers (ms : List NodeInfo.Member) : NodeInfo where
  nodeId := (ms.findSome? fun | .nodeId v => some v | _ => none).getD ""
  hostname := (ms.findSome? fun | .hostname v => some v | _ => none).join
  hardware := (ms.findSome? fun | .hardware v => some v | _ => none).join
  software := (ms.findSome? fun | .software v => some v | _ => none).join
  extra := Entries.ofList (ms.filterMap fun | .extra k v => some (k, v) | _ => none)

def NodeInfo.read (bound : Nat) : Reader NodeInfo := do
  return .ofMembers (← Json.object (NodeInfo.shape bound) "struct NodeInfo" bound)

inductive Statistics.Member
  | nodeId (value : String)
  | uptime (value : Option Float)
  | idleTime (value : Option Float)
  | loadAverage (value : Option Float)
  | clients (value : Option Clients)
  | extra (key : String) (value : Json.Value)

def Statistics.shape (bound : Nat) : Shape Statistics.Member where
  fieldName := namedInSection ["uptime", "idletime", "loadavg", "clients"]
  member
    | "node_id" => return .nodeId (← Json.text)
    | "id" => return .nodeId (← Json.text)
    | "uptime" => return .uptime (← Json.optional Json.double)
    | "idletime" => return .idleTime (← Json.optional Json.double)
    | "loadavg" => return .loadAverage (← Json.optional Json.double)
    | "clients" => return .clients (← Json.optional (Clients.read bound))
    | key => return .extra key (← Json.value bound (Json.nestingLimit - 2))

def Statistics.ofMembers (ms : List Statistics.Member) : Statistics where
  nodeId := (ms.findSome? fun | .nodeId v => some v | _ => none).getD ""
  uptime := (ms.findSome? fun | .uptime v => some v | _ => none).join
  idleTime := (ms.findSome? fun | .idleTime v => some v | _ => none).join
  loadAverage := (ms.findSome? fun | .loadAverage v => some v | _ => none).join
  clients := (ms.findSome? fun | .clients v => some v | _ => none).join
  extra := Entries.ofList (ms.filterMap fun | .extra k v => some (k, v) | _ => none)

def Statistics.read (bound : Nat) : Reader Statistics := do
  return .ofMembers (← Json.object (Statistics.shape bound) "struct Statistics" bound)

inductive Neighbours.Member
  | nodeId (value : String)
  | extra (key : String) (value : Json.Value)

def Neighbours.shape (bound : Nat) : Shape Neighbours.Member where
  fieldName := namedInSection []
  member
    | "node_id" => return .nodeId (← Json.text)
    | "id" => return .nodeId (← Json.text)
    | key => return .extra key (← Json.value bound (Json.nestingLimit - 2))

def Neighbours.ofMembers (ms : List Neighbours.Member) : Neighbours where
  nodeId := (ms.findSome? fun | .nodeId v => some v | _ => none).getD ""
  extra := Entries.ofList (ms.filterMap fun | .extra k v => some (k, v) | _ => none)

def Neighbours.read (bound : Nat) : Reader Neighbours := do
  return .ofMembers (← Json.object (Neighbours.shape bound) "struct Neighbours" bound)

/-! ## Responses -/

inductive Response.Member
  | nodeInfo (value : Option NodeInfo)
  | statistics (value : Option Statistics)
  | neighbours (value : Option Neighbours)
  | skipped

def Response.shape (bound : Nat) : Shape Response.Member where
  fieldName := namedIn ["nodeinfo", "statistics", "neighbours"]
  member
    | "nodeinfo" => return .nodeInfo (← Json.optional (NodeInfo.read bound))
    | "statistics" => return .statistics (← Json.optional (Statistics.read bound))
    | "neighbours" => return .neighbours (← Json.optional (Neighbours.read bound))
    | _ => do
      Json.skipValue bound
      return .skipped

def Response.ofMembers (ms : List Response.Member) : Response where
  nodeInfo := (ms.findSome? fun | .nodeInfo v => some v | _ => none).join
  statistics := (ms.findSome? fun | .statistics v => some v | _ => none).join
  neighbours := (ms.findSome? fun | .neighbours v => some v | _ => none).join

/-- A response, as an object or as the list of its sections. -/
def Response.read (bound : Nat) : Reader Response := do
  let shape := Response.shape bound
  return .ofMembers
    (← Json.record shape (["nodeinfo", "statistics", "neighbours"].map shape.member)
      "struct ResponseData" bound)

/-- The response that a JSON text holds. -/
def Response.ofText (text : List UInt8) : Except Json.Located Response :=
  Json.readWhole (Response.read (text.length + 1)) text

end MeshTelemetry
