import MeshTelemetry.Node

/-!
Aggregates over all known nodes: how many there are, how many clients they have, and how often each
firmware release and each hardware model occurs.

Sums are kept in 64 bits and counts of a release or model in 32 bits. Fewer than 2^32 nodes never
fill either.
-/

namespace MeshTelemetry

/-- Counts under names, sorted by name. -/
abbrev Tally := List (String × UInt32)

/-- Count a name once more. -/
def Tally.bump (name : String) : Tally → Tally
  | [] => [(name, 1)]
  | (other, n) :: rest =>
    if name = other then (other, n + 1) :: rest
    else if name < other then (name, 1) :: (other, n) :: rest
    else (other, n) :: Tally.bump name rest

/-- Count a name once more, if there is one. -/
def Tally.bump? (name : Option String) (t : Tally) : Tally :=
  match name with
  | none => t
  | some name => t.bump name

/-- The count of a name; zero if it has never been counted. -/
def Tally.countOf (t : Tally) (name : String) : UInt32 :=
  (t.lookup name).getD 0

/-- Aggregates over nodes. -/
structure GlobalStats where
  nodes : UInt64
  clients : UInt64
  clientsWifi : UInt64
  clientsWifi24 : UInt64
  clientsWifi5 : UInt64
  firmwares : Tally
  models : Tally
deriving Repr, DecidableEq

namespace GlobalStats

/-- Aggregates over no nodes. -/
def zero : GlobalStats :=
  { nodes := 0, clients := 0, clientsWifi := 0, clientsWifi24 := 0, clientsWifi5 := 0
    firmwares := [], models := [] }

/-- Add client counters. -/
def addClients (s : GlobalStats) (c : Clients) : GlobalStats :=
  { s with
    clients := s.clients + c.total.toUInt64
    clientsWifi := s.clientsWifi + c.wifi.toUInt64
    clientsWifi24 := s.clientsWifi24 + c.wifi24.toUInt64
    clientsWifi5 := s.clientsWifi5 + c.wifi5.toUInt64 }

/-- Count the release and the model of a node. -/
def addInfo (s : GlobalStats) (info : NodeInfo) : GlobalStats :=
  { s with
    firmwares := s.firmwares.bump? info.release
    models := s.models.bump? info.model }

/-- Count a node with everything that is known about it. -/
def add (s : GlobalStats) (n : Node) : GlobalStats :=
  let counted := { s with nodes := s.nodes + 1 }
  let summed := match n.statistics.bind (·.clients) with
    | none => counted
    | some c => counted.addClients c
  match n.nodeInfo with
  | none => summed
  | some info => summed.addInfo info

/-- Aggregates over some nodes. -/
def ofNodes (nodes : List Node) : GlobalStats :=
  nodes.foldl add zero

/-- The sums as numbers of a time series, sorted by name. -/
def fields (s : GlobalStats) : List (String × Float) :=
  [("clients.total", s.clients.toFloat), ("clients.wifi", s.clientsWifi.toFloat),
   ("clients.wifi24", s.clientsWifi24.toFloat), ("clients.wifi5", s.clientsWifi5.toFloat),
   ("nodes", s.nodes.toFloat)]

/-- Every sum stands under its own name. -/
theorem lookup_fields (s : GlobalStats) :
    s.fields.lookup "nodes" = some s.nodes.toFloat ∧
    s.fields.lookup "clients.total" = some s.clients.toFloat ∧
    s.fields.lookup "clients.wifi" = some s.clientsWifi.toFloat ∧
    s.fields.lookup "clients.wifi24" = some s.clientsWifi24.toFloat ∧
    s.fields.lookup "clients.wifi5" = some s.clientsWifi5.toFloat :=
  ⟨rfl, rfl, rfl, rfl, rfl⟩

end GlobalStats

end MeshTelemetry
