import MeshTelemetry.Config.Basic
import MeshTelemetry.Config.Record

/-!
The sections and fields of the settings, each with its default, and the settings that a TOML document
gives. The defaults of the fields of a section are those of the whole section.
-/

namespace MeshTelemetry

open Config

def CollectorConfig.fields : List (Setting CollectorConfig) :=
  [⟨"interface", fun c => { c with interface := defaultInterface },
      fun c item => do return { c with interface := ← readText item }⟩,
    ⟨"interval_secs", fun c => { c with intervalSeconds := defaultIntervalSeconds },
      fun c item => do return { c with intervalSeconds := ← readCount item }⟩,
    ⟨"listen_address", fun c => { c with listenAddress := defaultListenAddress },
      fun c item => do return { c with listenAddress := ← readText item }⟩,
    ⟨"request_address", fun c => { c with requestTarget := none },
      fun c item => do return { c with requestTarget := some (← readText item) }⟩]

def SinkConfig.fields : List (Setting SinkConfig) :=
  [⟨"enabled", fun c => { c with enabled := false },
      fun c item => do return { c with enabled := ← readSwitch item }⟩]

def LoggingConfig.fields : List (Setting LoggingConfig) :=
  [⟨"directory", fun c => { c with directory := defaultDirectory },
      fun c item => do return { c with directory := ← readPath item }⟩,
    ⟨"level", fun c => { c with level := defaultLevel },
      fun c item => do return { c with level := ← readText item }⟩,
    ⟨"files", fun c => { c with files := defaultFiles },
      fun c item => do return { c with files := ← readSwitch item }⟩]

def CollectorConfig.read : ItemReader CollectorConfig :=
  readRecord "CollectorConfig" CollectorConfig.fields

def SinkConfig.read : ItemReader SinkConfig :=
  readRecord "SinkConfig" SinkConfig.fields

def LoggingConfig.read : ItemReader LoggingConfig :=
  readRecord "LoggingConfig" LoggingConfig.fields

/-- The sections. -/
def Config.sections : List (Setting Config) :=
  [⟨"collector", fun c => { c with collector := .standard },
      fun c item => do return { c with collector := ← CollectorConfig.read item }⟩,
    ⟨"sink", fun c => { c with sink := .standard },
      fun c item => do return { c with sink := ← SinkConfig.read item }⟩,
    ⟨"logging", fun c => { c with logging := .standard },
      fun c item => do return { c with logging := ← LoggingConfig.read item }⟩]

/-- The settings that the entries of a document give. -/
def Config.ofEntries (entries : Toml.Entries) : Except Unfit Config :=
  readEntries Config.sections (unset Config.sections default) entries

/-! ## One default for each setting -/

theorem CollectorConfig.unset_fields (c : CollectorConfig) : unset fields c = .standard := rfl

theorem SinkConfig.unset_fields (c : SinkConfig) : unset fields c = .standard := rfl

theorem LoggingConfig.unset_fields (c : LoggingConfig) : unset fields c = .standard := rfl

theorem Config.unset_sections (c : Config) : unset sections c = .standard := rfl

end MeshTelemetry
