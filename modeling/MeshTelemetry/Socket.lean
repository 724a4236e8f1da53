import MeshTelemetry.Address.Resolve
import MeshTelemetry.Datagram
import MeshTelemetry.Event

/-!
The socket that requests leave by and answers arrive at, and what the program needs to know about
the host it runs on.
-/

namespace MeshTelemetry

/-- An error of input or output: its kind and its text. -/
structure IoError where
  kind : String
  message : String
deriving Repr, DecidableEq

namespace IoError

def closed : IoError :=
  ⟨"NotConnected", "socket closed"⟩

/-- The host has no such address. -/
def addressNotAvailable : IoError :=
  ⟨"AddrNotAvailable", "Cannot assign requested address (os error 99)"⟩

/-- A payload does not fit a datagram. -/
def messageTooLong : IoError :=
  ⟨"Uncategorized", "Message too long (os error 90)"⟩

end IoError

/-- What a host offers: its network interfaces, and for an address to listen at, the address that a
socket gets, with a port of its own if none was asked for. -/
structure Host where
  interfaces : Interfaces
  bind : SocketAddress → Except IoError SocketAddress

/-- A bound socket. -/
structure Socket where
  /-- The address that it listens at. -/
  address : SocketAddress
  closed : Bool
deriving Repr, DecidableEq

namespace Socket

/-- Bind a socket. -/
def bind (host : Host) (listen : SocketAddress) : Except IoError Socket :=
  (host.bind listen).map fun address => ⟨address, false⟩

/-- Close the socket for reading and writing. -/
def close (s : Socket) : Socket :=
  { s with closed := true }

/-- The most bytes that fit one datagram. -/
def payloadLimit : SocketAddress → Nat
  | .v4 _ _ => 65507
  | .v6 _ _ _ => 65527

/-- Write one datagram; the answer is the number of its bytes. -/
def write (s : Socket) (target : SocketAddress) (payload : List UInt8) : Except IoError Nat :=
  if s.closed then .error .closed
  else if payloadLimit target < payload.length then .error .messageTooLong
  else .ok payload.length

/-- Read one datagram, if one is ready; nothing if the read has to wait. A closed socket fails
before it looks at what is ready. -/
def read? (s : Socket) (ready : Option Datagram) : Option (Except IoError Datagram) :=
  if s.closed then some (.error .closed) else ready.map .ok

/-- The text of a request. -/
def requestText : String :=
  "GET nodeinfo statistics neighbours"

/-- The bytes of a request. -/
def request : List UInt8 :=
  Text.utf8 requestText

/-- The report on a request that could not be written. -/
def sendFailed (target : SocketAddress) (e : IoError) : Event :=
  { level := .warn, target := "respond_collector::udp::socket", message := "send_to failed"
    fields := [("destination", target.text), ("error", e.message)] }

/-- Send one request to an address given as text. An address that cannot be resolved is an error; a
failed write is only reported. -/
def sendRequest (host : Host) (s : Socket) (address : String) :
    Except AddressError (List Event) := do
  let target ← resolve host.interfaces address
  match s.write target request with
  | .ok _ => return []
  | .error e => return [sendFailed target e]

end Socket

end MeshTelemetry
