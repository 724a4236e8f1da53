import MeshTelemetry.Address.Basic

/-!
Reading socket addresses in numeric form: a dotted quad with a port, or an IPv6 address in brackets
with an optional numeric scope and a port. Leading zeros are allowed in groups, scopes and ports
and not in the parts of a dotted quad.
-/

namespace MeshTelemetry

/-- A step that reads from the front of a text and may find nothing. -/
abbrev Scanner (α : Type) :=
  List Char → Option (α × List Char)

/-- The given character. -/
def scanChar (expected : Char) : Scanner Unit
  | [] => none
  | c :: rest => if c = expected then some ((), rest) else none

/-- A number up to a limit, any number of digits long. -/
def scanNatural (limit : Nat) : Scanner Nat := fun text =>
  let digits := text.takeWhile Char.isDigit
  let n := Text.digitsValue 0 digits
  if digits ≠ [] ∧ n ≤ limit then some (n, text.dropWhile Char.isDigit) else none

/-- A part of a dotted quad. -/
def scanOctet : Scanner UInt8 := fun text =>
  let digits := text.takeWhile Char.isDigit
  let n := Text.digitsValue 0 digits
  if digits = [] ∨ 3 < digits.length ∨ (digits.head? = some '0' ∧ digits ≠ ['0']) ∨ 255 < n then
    none
  else some (UInt8.ofNat n, text.dropWhile Char.isDigit)

/-- A dotted quad. -/
def Ipv4.scan : Scanner Ipv4 := fun text => do
  let (a, text) ← scanOctet text
  let (_, text) ← scanChar '.' text
  let (b, text) ← scanOctet text
  let (_, text) ← scanChar '.' text
  let (c, text) ← scanOctet text
  let (_, text) ← scanChar '.' text
  let (d, text) ← scanOctet text
  return (⟨a, b, c, d⟩, text)

def isHexDigit (c : Char) : Bool :=
  (Text.Hex.value? c).isSome

/-- The value of hexadecimal digits. -/
def hexDigitsValue (digits : List Char) : Nat :=
  digits.foldl (fun n c => 16 * n + (Text.Hex.value? c).getD 0) 0

/-- A group of an IPv6 address: one to four hexadecimal digits. -/
def scanGroup : Scanner UInt16 := fun text =>
  let digits := text.takeWhile isHexDigit
  if digits = [] ∨ 4 < digits.length then none
  else some (UInt16.ofNat (hexDigitsValue digits), text.dropWhile isHexDigit)

/-- Something with a colon in front, unless it is the first. -/
def afterColon {α : Type} (first : Bool) (scan : Scanner α) : Scanner α := fun text =>
  if first then scan text
  else do
    let (_, text) ← scanChar ':' text
    scan text

/-- As many groups as there are, at most `limit`. Two of them may be written as a dotted quad,
which ends the groups; the flag tells whether that was so. -/
def scanGroups (first : Bool) : Nat → List Char → List UInt16 × Bool × List Char
  | 0, text => ([], false, text)
  | limit + 1, text =>
    match if limit = 0 then none else afterColon first Ipv4.scan text with
    | some (ip, rest) => (ip.groups, true, rest)
    | none =>
      match afterColon first scanGroup text with
      | none => ([], false, text)
      | some (g, rest) =>
        let (gs, quad, rest) := scanGroups false limit rest
        (g :: gs, quad, rest)

/-- Eight groups as an address. -/
def Ipv6.ofGroups? (groups : List UInt16) : Option Ipv6 :=
  if h : groups.length = 8 then some ⟨groups, h⟩ else none

/-- An IPv6 address. A double colon stands for at least one zero group, and no dotted quad stands
before it. -/
def Ipv6.scan : Scanner Ipv6 := fun text => do
  let (head, quad, text) := scanGroups true 8 text
  if head.length = 8 then
    return (← Ipv6.ofGroups? head, text)
  else if quad then none
  else
    let (_, text) ← scanChar ':' text
    let (_, text) ← scanChar ':' text
    let (tail, _, text) := scanGroups true (7 - head.length) text
    let zeros := List.replicate (8 - head.length - tail.length) 0
    return (← Ipv6.ofGroups? (head ++ zeros ++ tail), text)

def Ipv6.parse? (text : List Char) : Option Ipv6 :=
  match Ipv6.scan text with
  | some (ip, []) => some ip
  | _ => none

def Ipv4.parse? (text : List Char) : Option Ipv4 :=
  match Ipv4.scan text with
  | some (ip, []) => some ip
  | _ => none

/-- A colon and a port. -/
def scanPort : Scanner UInt16 := fun text => do
  let (_, text) ← scanChar ':' text
  let (n, text) ← scanNatural 65535 text
  return (UInt16.ofNat n, text)

/-- A percent sign and a numeric scope, or nothing. -/
def scanScope (text : List Char) : UInt32 × List Char :=
  match scanChar '%' text with
  | none => (0, text)
  | some (_, rest) =>
    match scanNatural 0xffffffff rest with
    | none => (0, text)
    | some (n, rest) => (UInt32.ofNat n, rest)

/-- An IPv4 socket address. -/
def scanSocketV4 : Scanner SocketAddress := fun text => do
  let (ip, text) ← Ipv4.scan text
  let (port, text) ← scanPort text
  return (.v4 ip port, text)

/-- An IPv6 socket address. -/
def scanSocketV6 : Scanner SocketAddress := fun text => do
  let (_, text) ← scanChar '[' text
  let (ip, text) ← Ipv6.scan text
  let (scope, text) := scanScope text
  let (_, text) ← scanChar ']' text
  let (port, text) ← scanPort text
  return (.v6 ip port scope, text)

def SocketAddress.parse? (text : List Char) : Option SocketAddress :=
  match (scanSocketV4 text).or (scanSocketV6 text) with
  | some (a, []) => some a
  | _ => none

end MeshTelemetry
