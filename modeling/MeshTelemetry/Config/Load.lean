import MeshTelemetry.Config.Reader
import MeshTelemetry.Toml.Reader

/-!
The settings that a configuration file gives, and why there may be none.
-/

namespace MeshTelemetry

/-- Why there is no configuration. -/
inductive ConfigError
  /-- The file could not be read, for a reason given in words. -/
  | unreadable (reason : String)
  /-- The text is not TOML. -/
  | malformed
  /-- A value does not fit; the complaint says which. -/
  | unfit (complaint : String)
deriving Repr, DecidableEq

def ConfigError.message : ConfigError → String
  | .unreadable reason => "Failed to read config file: " ++ reason
  | .malformed => "Failed to parse config: not valid TOML"
  | .unfit complaint => "Failed to parse config: " ++ complaint

def Config.parse (text : String) : Except ConfigError Config :=
  match Toml.parse? text with
  | none => .error .malformed
  | some entries => (Config.ofEntries entries).mapError fun e => .unfit (e.complaint text)

/-- What is found where the configuration file should be. -/
inductive ConfigFile
  | missing
  | unreadable (reason : String)
  | content (bytes : List UInt8)
deriving Repr, DecidableEq

/-- The settings that a file gives; without a file the standard ones hold. -/
def Config.load : ConfigFile → Except ConfigError Config
  | .missing => .ok .standard
  | .unreadable reason => .error (.unreadable reason)
  | .content bytes =>
    match Text.ofUtf8? bytes with
    | none => .error (.unreadable "stream did not contain valid UTF-8")
    | some text => Config.parse text

end MeshTelemetry
