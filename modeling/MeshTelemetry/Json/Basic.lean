import MeshTelemetry.Entries
import MeshTelemetry.Text.Utf8

/-!
JSON values as they are kept: integers apart from other numbers, and the members of an object
sorted by key, each key once.
-/

namespace MeshTelemetry.Json

/-- A number. Integers that fit 64 bits, with or without sign, stay integers. -/
inductive Number
  | integer (n : Int)
  | float (x : Float)
deriving Repr, BEq

/-- A kept JSON value. -/
inductive Value
  | null
  | boolean (b : Bool)
  | number (n : Number)
  | text (s : String)
  | list (items : List Value)
  | object (members : List (String × Value))
deriving Repr, BEq

/-- Keys with their values. -/
abbrev Members := List (String × Value)

/-- The value of a number as a double. -/
def Number.toFloat : Number → Float
  | .integer n => Float.ofInt n
  | .float x => x

end MeshTelemetry.Json
