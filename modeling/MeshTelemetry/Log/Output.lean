import MeshTelemetry.Config.Basic
import MeshTelemetry.Log.Filter
import MeshTelemetry.Timestamp

/-!
Where log events go: to the console, and to four log files that each take a part of them.
-/

namespace MeshTelemetry.Log

/-- The log files. -/
inductive Channel
  /-- Everything. -/
  | main
  /-- Warnings and errors. -/
  | error
  /-- Socket, receiver and request schedule. -/
  | udp
  /-- Decoding, registry, aggregates and sink. -/
  | nodes
deriving Repr, DecidableEq

/-- All log files. -/
def Channel.all : List Channel :=
  [.main, .error, .udp, .nodes]

def Channel.name : Channel → String
  | .main => "main"
  | .error => "error"
  | .udp => "udp"
  | .nodes => "nodes"

/-- A log file takes an event. -/
def Channel.takes (e : Event) : Channel → Bool
  | .main => true
  | .error => e.level.rank ≤ Level.warn.rank
  | .udp => Text.occursIn "udp".toList e.target.toList
  | .nodes =>
    ["pipeline", "registry", "aggregator", "sink"].any fun word =>
      Text.occursIn word.toList e.target.toList

/-! ## Lines -/

/-- A character of a message as a line shows it. One that drives a terminal is spelled out. -/
def shownChar (c : Char) : List Char :=
  if c = '\x1b' || c = '\x07' || c = '\x08' || c = '\x0c' || c = '\x7f' then
    '\\' :: 'x' :: Text.Hex.encode [UInt8.ofNat c.toNat]
  else if 0x80 ≤ c.toNat && c.toNat ≤ 0x9f then
    ['\\', 'u', '\x7b'] ++ Text.Hex.ofNat c.toNat ++ ['\x7d']
  else [c]

/-- The line of an event. -/
def line (e : Event) : String :=
  let fields := e.fields.map fun (name, value) => " " ++ name ++ "=" ++ value
  e.level.name ++ " " ++ e.target ++ ": " ++
    String.ofList (e.message.toList.flatMap shownChar) ++ String.join fields

/-- The line of an event with its time, levels aligned at their ends. -/
def timedLine (time : Timestamp) (e : Event) : String :=
  let margin := String.ofList (List.replicate (5 - e.level.name.length) ' ')
  time.text ++ " " ++ margin ++ line e

/-- The members of the JSON form of an event. -/
def members (e : Event) : Json.Members :=
  let fields := ("message", e.message) :: e.fields
  [("level", .text e.level.name),
    ("fields", .object (fields.map fun (name, value) => (name, .text value))),
    ("target", .text e.target)]

/-- The JSON form of an event with its time. -/
def timedJson (time : Timestamp) (e : Event) : Json.Value :=
  .object (("timestamp", .text time.text) :: members e)

/-! ## A set-up -/

/-- What is kept, and the directory of the log files, if any are written. -/
structure Setup where
  filter : Filter
  directory : Option String
  /-- What is said about the filter before anything is logged. -/
  complaints : List String
deriving Repr

/-- The set-up of a configuration. A filter from the environment replaces the configured one if it
is well formed. -/
def Setup.ofConfig (environment : Option String) (c : LoggingConfig) : Setup :=
  let directory := if c.files then some c.directory else none
  match environment.bind Filter.parse? with
  | some filter => ⟨filter, directory, []⟩
  | none => ⟨.ofText c.level, directory, Filter.complaints c.level⟩

/-- The log files that are written. -/
def Setup.channels (s : Setup) : List Channel :=
  if s.directory.isSome then Channel.all else []

/-- The directory of each log file. -/
def Setup.directories (s : Setup) : List String :=
  s.directory.toList.flatMap fun root => s.channels.map fun c => root ++ "/" ++ c.name

/-- What is logged first. -/
def Setup.greeting (s : Setup) : List Event :=
  s.directory.toList.map fun root =>
    { level := .info, target := "respond_collector::infrastructure::logging"
      message := "Logging initialized. Log files in " ++ root, fields := [] }

/-- The lines of some events on the console. -/
def Setup.console (s : Setup) (events : List Event) : List String :=
  (events.filter s.filter.keeps).map line

/-- The events of a log file among some events. -/
def Setup.file (s : Setup) (c : Channel) (events : List Event) : List Event :=
  events.filter fun e => s.filter.keeps e && c.takes e

/-- The text of an event in a log file: JSON where everything goes, lines elsewhere. -/
def Channel.text (time : Timestamp) (e : Event) : Channel → String
  | .main => (timedJson time e).render
  | .error => timedLine time e
  | .udp => timedLine time e
  | .nodes => timedLine time e

/-- The path of a log file on the day of a moment, below the directory of all of them. -/
def Channel.path (root : String) (time : Timestamp) (c : Channel) : String :=
  root ++ "/" ++ c.name ++ "/" ++ c.name ++ "." ++ time.dayText

end MeshTelemetry.Log
