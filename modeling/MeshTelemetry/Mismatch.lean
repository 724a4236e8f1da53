import MeshTelemetry.Decimal.Format
import MeshTelemetry.Text.Quoted

/-!
Values that do not fit the place they stand in.

Documents and configuration files are read into typed records. What a reader finds instead of the
kind of value it needs is a `Found`; its description is the same for both kinds of document, but
for the way numbers are written.
-/

namespace MeshTelemetry

/-- What stood where a value of another kind was expected. -/
inductive Found
  | null
  | boolean (b : Bool)
  | integer (n : Int)
  | float (x : Float)
  | text (s : String)
  | sequence
  | map
deriving Repr

/-- A found value in words, numbers in the given format. -/
def Found.describe (format : Decimal.Format) : Found → String
  | .null => "null"
  | .boolean b => "boolean `" ++ (if b then "true" else "false") ++ "`"
  | .integer n => "integer `" ++ toString n ++ "`"
  | .float x => "floating point `" ++ format.text x ++ "`"
  | .text s => "string " ++ Text.quoted s
  | .sequence => "sequence"
  | .map => "map"

/-- A value that is no use where it stands, and what was expected there. -/
inductive Mismatch
  /-- The value is of another type. -/
  | wrongType (found : Found) (expected : String)
  /-- The type allows the value and the place does not. -/
  | wrongValue (found : Found) (expected : String)
deriving Repr

def Mismatch.message (format : Decimal.Format) : Mismatch → String
  | .wrongType found expected =>
    "invalid type: " ++ found.describe format ++ ", expected " ++ expected
  | .wrongValue found expected =>
    "invalid value: " ++ found.describe format ++ ", expected " ++ expected

end MeshTelemetry
