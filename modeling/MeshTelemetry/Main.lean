import MeshTelemetry.Daemon
import MeshTelemetry.Log.Output
import MeshTelemetry.Network
import Std.Async.Signal
import Std.Async.Timer

/-!
The program on the command line. It reads its settings from the file named by `CONFIG_PATH`, or from
`config.toml`, and collects until it is interrupted.

All that is decided here is what to wait for next; the collector decides everything else.
-/

namespace MeshTelemetry.Main

open Std.Async

/-- The time of day. -/
def clock : IO Timestamp := do
  return ⟨(← Std.Time.Timestamp.now).toNanosecondsSinceUnixEpoch.val, 0⟩

/-- A moment in milliseconds since the epoch. -/
def millis (t : Timestamp) : Nat :=
  (t.nanos / Interval.millisecond).toNat

/-- The configuration file. -/
def configFile : IO ConfigFile := do
  let path := (← IO.getEnv "CONFIG_PATH").getD "config.toml"
  try
    return .content (← IO.FS.readBinFile path).toList
  catch
    | .noFileOrDirectory .. => return .missing
    | e => return .unreadable (toString e)

/-- Write a log event to the console and to the log files that take it. -/
def log (setup : Log.Setup) (e : Event) : IO Unit := do
  if setup.filter.keeps e then
    let now ← clock
    IO.println (Log.timedLine now e)
    for root in setup.directory do
      for c in setup.channels do
        if c.takes e then
          let file ← IO.FS.Handle.mk (c.path root now) .append
          file.putStrLn (c.text now e)

/-- Open the log. -/
def openLog (setup : Log.Setup) : IO (Except Daemon.Failure Unit) := do
  try
    for directory in setup.directories do
      IO.FS.createDirAll directory
    for e in setup.greeting do
      log setup e
    return .ok ()
  catch e => return .error (.ofLog (Network.describe e))

/-- The host as the collector sees it, with a socket that is bound as the settings ask. -/
def findHost (socket : UDP.Socket) (config : CollectorConfig) : IO Host := do
  let table ← try Network.interfaces catch _ => pure []
  let interfaces := fun name => table.lookup name
  let bound : Except IoError SocketAddress ←
    match resolve interfaces config.listenAddress with
    | .error _ => pure (.error .addressNotAvailable)
    | .ok listen =>
      try
        socket.bind (Network.toSystem listen)
        pure (.ok (Network.ofSystem (← socket.getSockName)))
      catch e => pure (.error (Network.describe e))
  return ⟨interfaces, fun _ => bound⟩

/-- Ask the system to send a request. -/
def send (socket : UDP.Socket) (target : SocketAddress) : Async (Except IoError Nat) := do
  try
    socket.send Socket.requestText.toUTF8 (some (Network.toSystem target))
    return .ok Socket.request.length
  catch e => return .error (Network.describe e)

/-- Carry out effects. -/
def perform (setup : Log.Setup) (socket : UDP.Socket) (c : Collector)
    (effects : List Collector.Effect) : Async Collector :=
  c.carryOut (send socket) (fun effect => do
    for e in Daemon.events effect do
      log setup e) effects

/-- What ends a wait. -/
inductive Wake
  | received (d : Datagram)
  | nothing
  | interrupted

/-- Wait for a datagram, for the next thing that is due, or for an interrupt. A socket that could
not be read is not read again. -/
def wait (socket : UDP.Socket) (interrupt : Signal.Waiter) (c : Collector) : Async Wake := do
  let due ← Selector.sleep (.ofNat (c.dueIn?.getD 1000))
  let read : Selectable Wake :=
    .case (socket.recvSelector (UInt64.ofNat maxDatagramSize)) fun (bytes, source) =>
      match source with
      | some a => return .received ⟨Network.ofSystem a, bytes.toList⟩
      | none => return .nothing
  let others : Array (Selectable Wake) :=
    #[.case interrupt.selector fun _ => return .interrupted, .case due fun _ => return .nothing]
  Selectable.one (if c.intake.receiver.exit?.isNone then others.push read else others)

/-- Collect until an interrupt, then close. -/
partial def collect (setup : Log.Setup) (socket : UDP.Socket) (interrupt : Signal.Waiter)
    (startedAt : Nat) (c : Collector) : Async Unit := do
  let woken : Except String Wake ←
    try
      let w ← wait socket interrupt c
      pure (.ok w)
    catch e => pure (.error (toString e))
  let now := millis (← clock)
  let (c, effects) := c.advance (now - c.now)
  let c ← perform setup socket c effects
  match woken with
  | .ok .interrupted =>
    let (c, effects) := Daemon.stop c startedAt
    discard (perform setup socket c effects)
  | .ok .nothing => collect setup socket interrupt startedAt c
  | .ok (.received d) =>
    let (c, effects) := c.arrive d
    collect setup socket interrupt startedAt (← perform setup socket c effects)
  | .error reason =>
    let (c, effects) := c.failRead reason
    collect setup socket interrupt startedAt (← perform setup socket c effects)

/-- The life of the program up to its end or its failure. -/
def run : IO (Except Daemon.Failure Unit) := do
  match Daemon.configure (← configFile) with
  | .error f => return .error f
  | .ok config =>
    let setup := Log.Setup.ofConfig (← IO.getEnv "RUST_LOG") config.logging
    for complaint in setup.complaints do
      IO.eprintln complaint
    match ← openLog setup with
    | .error f => return .error f
    | .ok () =>
      let interrupt ← Signal.Waiter.mk .sigint false
      let socket ← UDP.Socket.mk
      let host ← findHost socket config.collector
      let now := millis (← clock)
      let (effects, result) := Daemon.start host config now
      match result with
      | .error f =>
        for e in effects.flatMap Daemon.events do
          log setup e
        return .error f
      | .ok c =>
        Async.block do
          let c ← perform setup socket c effects
          collect setup socket interrupt now c
        return .ok ()

end MeshTelemetry.Main

open MeshTelemetry in
/-- Run the program; a failure is reported and makes the exit code one. -/
def main : IO UInt32 := do
  match ← Main.run with
  | .ok () => return 0
  | .error f =>
    for line in f.report do
      IO.eprintln line
    return 1
