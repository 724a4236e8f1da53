import MeshTelemetry.Text.Hex
import MeshTelemetry.Text.Natural

/-!
Internet addresses and socket addresses, and the texts that the program prints for them.

An IPv6 address is written in lower case without leading zeros; the first of the longest runs of
two or more zero groups becomes a double colon, and an address that stands for an IPv4 address ends
in dotted form. A scope is written behind a percent sign unless it is zero.
-/

namespace MeshTelemetry

/-- Four bytes. -/
structure Ipv4 where
  a : UInt8
  b : UInt8
  c : UInt8
  d : UInt8
deriving Repr, DecidableEq

/-- Eight groups of sixteen bits. -/
structure Ipv6 where
  groups : List UInt16
  length_eq : groups.length = 8
deriving Repr, DecidableEq

/-- An internet address with a port. The scope of an IPv6 address names a network interface by its
number; zero names none. -/
inductive SocketAddress
  | v4 (ip : Ipv4) (port : UInt16)
  | v6 (ip : Ipv6) (port : UInt16) (scope : UInt32)
deriving Repr, DecidableEq

def SocketAddress.port : SocketAddress → UInt16
  | .v4 _ port => port
  | .v6 _ port _ => port

/-- The two groups that hold an IPv4 address inside an IPv6 address. -/
def Ipv4.groups (ip : Ipv4) : List UInt16 :=
  [ip.a.toUInt16 * 256 + ip.b.toUInt16, ip.c.toUInt16 * 256 + ip.d.toUInt16]

/-! ## Texts -/

def Ipv4.print (ip : Ipv4) : List Char :=
  Text.decimal ip.a.toNat ++ '.' :: Text.decimal ip.b.toNat ++
    '.' :: Text.decimal ip.c.toNat ++ '.' :: Text.decimal ip.d.toNat

/-- Groups in hexadecimal with colons between them. -/
def printGroups : List UInt16 → List Char
  | [] => []
  | [g] => Text.Hex.ofNat g.toNat
  | g :: rest => Text.Hex.ofNat g.toNat ++ ':' :: printGroups rest

/-- How many groups are zero from the given one on. -/
def zeroRun (groups : List UInt16) (start : Nat) : Nat :=
  ((groups.drop start).takeWhile (· = 0)).length

/-- Start and length of the first of the longest runs of zero groups. -/
def longestZeroRun (groups : List UInt16) : Nat × Nat :=
  (List.range groups.length).foldl
    (fun best start =>
      if best.2 < zeroRun groups start then (start, zeroRun groups start) else best)
    (0, 0)

/-- The IPv4 address that an IPv6 address stands for. -/
def Ipv6.mapped? (ip : Ipv6) : Option Ipv4 :=
  match ip.groups with
  | [0, 0, 0, 0, 0, 0xffff, high, low] =>
    some ⟨(high / 256).toUInt8, high.toUInt8, (low / 256).toUInt8, low.toUInt8⟩
  | _ => none

def Ipv6.print (ip : Ipv6) : List Char :=
  match ip.mapped? with
  | some inner => [':', ':', 'f', 'f', 'f', 'f', ':'] ++ inner.print
  | none =>
    let (start, length) := longestZeroRun ip.groups
    if 1 < length then
      printGroups (ip.groups.take start) ++ ':' :: ':' ::
        printGroups (ip.groups.drop (start + length))
    else printGroups ip.groups

def SocketAddress.print : SocketAddress → List Char
  | .v4 ip port => ip.print ++ ':' :: Text.decimal port.toNat
  | .v6 ip port scope =>
    let zone := if scope = 0 then [] else '%' :: Text.decimal scope.toNat
    '[' :: ip.print ++ zone ++ ']' :: ':' :: Text.decimal port.toNat

/-- The text of an internet address. -/
def SocketAddress.ipText : SocketAddress → String
  | .v4 ip _ => String.ofList ip.print
  | .v6 ip _ _ => String.ofList ip.print

def SocketAddress.text (a : SocketAddress) : String :=
  String.ofList a.print

end MeshTelemetry
