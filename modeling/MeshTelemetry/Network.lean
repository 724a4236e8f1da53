import MeshTelemetry.Socket
import Std.Async.UDP

/-!
The network of the host that the program runs on: its interfaces, and its socket addresses.
-/

namespace MeshTelemetry.Network

/-- An address as the system takes it. The addresses of the system have no scope, so that the one of an
IPv6 address is lost, and the system chooses the interface by its own rules. -/
def toSystem : SocketAddress → Std.Net.SocketAddress
  | .v4 ip port => .v4 ⟨.ofParts ip.a ip.b ip.c ip.d, port⟩
  | .v6 ip port _ => .v6 ⟨⟨ip.groups.toArray, by simp [ip.length_eq]⟩, port⟩

/-- An address as the system gives it. -/
def ofSystem : Std.Net.SocketAddress → SocketAddress
  | .v4 a =>
    let octets := a.addr.octets
    .v4 ⟨octets[0], octets[1], octets[2], octets[3]⟩ a.port
  | .v6 a => .v6 ⟨a.addr.segments.toList, by simp⟩ a.port 0

/-- The name in a line about an interface: what stands before the colon. -/
def nameOfLine? (line : String) : Option String :=
  (Text.splitFirst? ':' line.toList).map fun (name, _) =>
    String.ofList (name.dropWhile Char.isWhitespace)

/-- The names of all network interfaces with their numbers. -/
def interfaces : IO (List (String × UInt32)) := do
  let lines ← IO.FS.lines "/proc/net/dev"
  (lines.toList.filterMap nameOfLine?).filterMapM fun name => do
    let text ← IO.FS.readFile ("/sys/class/net/" ++ name ++ "/ifindex")
    return text.trimAscii.toNat?.map fun n => (name, UInt32.ofNat n)

/-- What the system says about a failure. -/
def describe (e : IO.Error) : IoError :=
  ⟨"Other", toString e⟩

end MeshTelemetry.Network
