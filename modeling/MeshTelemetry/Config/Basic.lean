import MeshTelemetry.Address.Resolve
import MeshTelemetry.Interval
import MeshTelemetry.Json.Writer

/-!
The settings of the program. Every setting has a default, which holds when the configuration leaves
it out, and every section has one, which holds when the whole section is left out.
-/

namespace MeshTelemetry

/-- Where requests go, how often, and where answers arrive. -/
structure CollectorConfig where
  /-- The network interface whose multicast group is asked. -/
  interface : String
  /-- Seconds from one request to the next. -/
  intervalSeconds : Nat
  /-- The address that answers arrive at. -/
  listenAddress : String
  /-- The address to ask in place of the multicast group. -/
  requestTarget : Option String
deriving Repr, DecidableEq, Inhabited

/-- Whether statistics are passed on. -/
structure SinkConfig where
  enabled : Bool
deriving Repr, DecidableEq, Inhabited

/-- What is logged, and where. -/
structure LoggingConfig where
  /-- The directory of the log files. -/
  directory : String
  /-- The filter of the console and of the complete log file. -/
  level : String
  /-- Log files are written beside the console. -/
  files : Bool
deriving Repr, DecidableEq, Inhabited

/-- All settings. -/
structure Config where
  collector : CollectorConfig
  sink : SinkConfig
  logging : LoggingConfig
deriving Repr, DecidableEq, Inhabited

/-! ## Defaults -/

def CollectorConfig.defaultInterface : String := "bat0"

def CollectorConfig.defaultIntervalSeconds : Nat := 60

def CollectorConfig.defaultListenAddress : String := "[::]:0"

def LoggingConfig.defaultDirectory : String := "logs"

def LoggingConfig.defaultLevel : String := "info"

def LoggingConfig.defaultFiles : Bool := true

/-- The section that holds when it is left out. -/
def CollectorConfig.standard : CollectorConfig :=
  { interface := defaultInterface, intervalSeconds := defaultIntervalSeconds
    listenAddress := defaultListenAddress, requestTarget := none }

/-- The section that holds when it is left out. -/
def SinkConfig.standard : SinkConfig :=
  { enabled := false }

/-- The section that holds when it is left out. -/
def LoggingConfig.standard : LoggingConfig :=
  { directory := defaultDirectory, level := defaultLevel, files := defaultFiles }

/-- The settings that hold without any configuration. -/
def Config.standard : Config :=
  { collector := .standard, sink := .standard, logging := .standard }

/-- The time from one request to the next. -/
def CollectorConfig.interval (c : CollectorConfig) : Interval :=
  .ofSeconds c.intervalSeconds

/-- The address that requests go to: the given one, or the multicast group on the interface. -/
def CollectorConfig.requestAddress (c : CollectorConfig) : String :=
  c.requestTarget.getD (multicastAddress c.interface)

/-! ## The JSON form -/

open Json (Value)

def CollectorConfig.toJson (c : CollectorConfig) : Value :=
  .object [("interface", .text c.interface),
    ("interval_secs", .number (.integer c.intervalSeconds)),
    ("listen_address", .text c.listenAddress),
    ("request_address", c.requestTarget.elim .null .text)]

def SinkConfig.toJson (c : SinkConfig) : Value :=
  .object [("enabled", .boolean c.enabled)]

def LoggingConfig.toJson (c : LoggingConfig) : Value :=
  .object [("directory", .text c.directory), ("level", .text c.level),
    ("files", .boolean c.files)]

def Config.toJson (c : Config) : Value :=
  .object [("collector", c.collector.toJson), ("sink", c.sink.toJson),
    ("logging", c.logging.toJson)]

end MeshTelemetry
