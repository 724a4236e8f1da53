import MeshTelemetry.Text.Quoted

/-!
Log events: a level, the part of the program that speaks, a message, and named values as text.
-/

namespace MeshTelemetry

/-- Severity, from the least to the most severe. -/
inductive Level
  | trace
  | debug
  | info
  | warn
  | error
deriving Repr, DecidableEq

def Level.name : Level → String
  | .trace => "TRACE"
  | .debug => "DEBUG"
  | .info => "INFO"
  | .warn => "WARN"
  | .error => "ERROR"

/-- Rank of a level; a more severe one has a smaller rank. -/
def Level.rank : Level → Nat
  | .error => 1
  | .warn => 2
  | .info => 3
  | .debug => 4
  | .trace => 5

/-- One log event. -/
structure Event where
  level : Level
  target : String
  message : String
  fields : List (String × String)
deriving Repr, DecidableEq

/-- The text of a truth value in a field. -/
def flagText (b : Bool) : String :=
  if b then "true" else "false"

/-- Keys and written values in braces, as fields show a map. -/
def mapText (entries : List (String × String)) : String :=
  "\x7b" ++ String.intercalate ", " (entries.map fun (k, v) => Text.quoted k ++ ": " ++ v) ++ "\x7d"

end MeshTelemetry
