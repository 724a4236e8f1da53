import MeshTelemetry.Address.Reader
import MeshTelemetry.Text.Split

/-!
From the text of an address to the address, in three stages: a numeric socket address, an IPv6
address whose scope may be the name of a network interface, and a host with a port.

Which interfaces exist is given by a partial function from names to numbers. Of hosts only numeric
ones are known; asking for a name ends in a failed look-up.
-/

namespace MeshTelemetry

/-- The number of each existing network interface. -/
abbrev Interfaces := String → Option UInt32

/-- Why a text is no usable address. -/
inductive AddressFault
  | invalidIpv6
  | invalidPort (fault : Text.NumberFault)
  | unknownInterface (name : String)
  | notHostAndPort
  | invalidHostPort
  | unknownHost
deriving Repr, DecidableEq

def AddressFault.message : AddressFault → String
  | .invalidIpv6 => "invalid IPv6 address syntax"
  | .invalidPort fault => fault.message
  | .unknownInterface name => "unknown interface '" ++ name ++ "'"
  | .notHostAndPort => "invalid socket address"
  | .invalidHostPort => "invalid port value"
  | .unknownHost => "failed to lookup address information: Name or service not known"

/-- A text that could not be resolved. -/
structure AddressError where
  address : String
  fault : AddressFault
deriving Repr, DecidableEq

def AddressError.message (e : AddressError) : String :=
  "Invalid address '" ++ e.address ++ "': " ++ e.fault.message

/-! ## Scoped addresses -/

/-- The scope that a zone denotes: its value if it reads as a number, otherwise the number of the
interface of that name. -/
def Interfaces.scope? (interfaces : Interfaces) (zone : List Char) : Option UInt32 :=
  match Text.readNatural 0xffffffff zone with
  | .ok n => some (UInt32.ofNat n)
  | .error _ => interfaces (String.ofList zone)

/-- The address, zone and port of a text in brackets: cut at the last closing bracket with a colon,
then at the first percent sign. -/
def scopedParts? : List Char → Option (List Char × List Char × List Char)
  | '[' :: rest => do
    let (host, port) ← Text.splitLast? [']', ':'] rest
    let (ip, zone) ← Text.splitFirst? '%' host
    return (ip, zone, port)
  | _ => none

/-- The address that three parts name. A fault in the address comes before one in the port, and
that before one in the zone. -/
def resolveScoped (interfaces : Interfaces) (ip zone port : List Char) :
    Except AddressFault SocketAddress :=
  match Ipv6.parse? ip with
  | none => .error .invalidIpv6
  | some ip =>
    match Text.readNatural 65535 port with
    | .error fault => .error (.invalidPort fault)
    | .ok port =>
      match interfaces.scope? zone with
      | none => .error (.unknownInterface (String.ofList zone))
      | some scope => .ok (.v6 ip (UInt16.ofNat port) scope)

/-! ## Hosts -/

/-- The number in a part of a numeric host: hexadecimal behind 0x, octal behind 0, else decimal. -/
def hostNumber? (part : List Char) : Option Nat :=
  let (base, digits) := match part with
    | '0' :: 'x' :: rest => (16, rest)
    | '0' :: 'X' :: rest => (16, rest)
    | '0' :: rest => (8, '0' :: rest)
    | rest => (10, rest)
  let values := digits.map fun c => (Text.Hex.value? c).getD 16
  if digits ≠ [] ∧ values.all (· < base) then
    some (values.foldl (fun n v => base * n + v) 0)
  else none

/-- The value of one to four parts: the last one fills all bytes that the others leave. -/
def hostValue? : Nat → List Nat → Option Nat
  | _, [] => none
  | bytes, [last] => if last < Nat.pow 256 bytes then some last else none
  | bytes, first :: rest => do
    if first < 256 ∧ 1 < bytes then
      let low ← hostValue? (bytes - 1) rest
      return first * Nat.pow 256 (bytes - 1) + low
    else none

/-- A host that is an IPv4 address in one of its numeric spellings. -/
def numericHost? (host : List Char) : Option Ipv4 := do
  let n ← hostValue? 4 (← (Text.parts '.' host).mapM hostNumber?)
  return ⟨UInt8.ofNat (n / 0x1000000), UInt8.ofNat (n / 0x10000 % 256), UInt8.ofNat (n / 256 % 256),
    UInt8.ofNat (n % 256)⟩

/-- The address of a host and a port, for hosts that need no name service. -/
def resolveHost (interfaces : Interfaces) (host : List Char) (port : UInt16) :
    Except AddressFault SocketAddress :=
  match numericHost? host with
  | some ip => .ok (.v4 ip port)
  | none =>
    let (ip, zone) := (Text.splitFirst? '%' host).getD (host, ['0'])
    match Ipv6.parse? ip, interfaces.scope? zone with
    | some ip, some scope => .ok (.v6 ip port scope)
    | _, _ => .error .unknownHost

/-- The address of a text that consists of a host, a colon and a port. -/
def resolveHostPort (interfaces : Interfaces) (text : List Char) :
    Except AddressFault SocketAddress :=
  match Text.splitLast? [':'] text with
  | none => .error .notHostAndPort
  | some (host, port) =>
    match Text.readNatural 65535 port with
    | .error _ => .error .invalidHostPort
    | .ok port => resolveHost interfaces host (UInt16.ofNat port)

/-! ## All stages -/

/-- The address that the first stage to take up a text makes of it. -/
def resolveText (interfaces : Interfaces) (text : List Char) : Except AddressFault SocketAddress :=
  match SocketAddress.parse? text with
  | some a => .ok a
  | none =>
    match scopedParts? text with
    | some (ip, zone, port) => resolveScoped interfaces ip zone port
    | none => resolveHostPort interfaces text

/-- The address that a text names. -/
def resolve (interfaces : Interfaces) (address : String) : Except AddressError SocketAddress :=
  (resolveText interfaces address.toList).mapError fun fault => ⟨address, fault⟩

/-- The multicast group that nodes listen on. -/
def multicastGroup : Ipv6 :=
  ⟨[0xff02, 0, 0, 0, 0, 0, 2, 0x1001], rfl⟩

/-- The port that nodes listen on. -/
def nodePort : UInt16 := 1001

/-- The text of the multicast address on a network interface. -/
def multicastAddress (interface : String) : String :=
  String.ofList ('[' :: multicastGroup.print ++ '%' :: interface.toList ++
    ']' :: ':' :: Text.decimal nodePort.toNat)

end MeshTelemetry
