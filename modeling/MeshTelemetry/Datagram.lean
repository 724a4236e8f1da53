import MeshTelemetry.Address.Basic
import MeshTelemetry.Deflate.Inflate
import MeshTelemetry.Response.Reader

/-!
Datagrams and what they carry: the JSON text of a response, compressed.
-/

namespace MeshTelemetry

/-- A received datagram. -/
structure Datagram where
  source : SocketAddress
  payload : List UInt8
deriving Repr, DecidableEq

/-- Why a payload holds no response. -/
inductive PayloadFault
  | inflate (fault : Deflate.Fault)
  | json (fault : Json.Located)
deriving Repr

def PayloadFault.message : PayloadFault → String
  | .inflate fault => "inflate failed: " ++ fault.message
  | .json fault => "invalid JSON: " ++ fault.message

/-- The response that a payload holds. The compressed stream must be read to its end before the
text in it is looked at. -/
def decodePayload (payload : List UInt8) : Except PayloadFault Response :=
  match Deflate.inflate payload with
  | .error fault => .error (.inflate fault)
  | .ok text => (Response.ofText text).mapError .json

/-- A datagram without a response in it, with the reason. -/
structure DecodeError where
  datagram : Datagram
  fault : PayloadFault

def DecodeError.message (e : DecodeError) : String :=
  "unable to decode response from " ++ e.datagram.source.text ++ ": " ++ e.fault.message

/-- The response that a datagram holds. -/
def Datagram.decode (d : Datagram) : Except DecodeError Response :=
  (decodePayload d.payload).mapError fun fault => ⟨d, fault⟩

end MeshTelemetry
