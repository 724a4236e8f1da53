import MeshTelemetry.Json.Basic
import MeshTelemetry.Json.Scan

/-!
The compact text of a JSON value: no blanks, members in their order. A string escapes quotes,
backslashes and control characters and nothing else.
-/

namespace MeshTelemetry.Json

/-- The bytes of an ASCII word. -/
def ascii (cs : List Char) : List UInt8 :=
  cs.map byte

/-- The bytes that stand for one byte of a string. -/
def escapeByte (b : UInt8) : List UInt8 :=
  if b = byte '"' then ascii ['\\', '"']
  else if b = byte '\\' then ascii ['\\', '\\']
  else if b = 0x08 then ascii ['\\', 'b']
  else if b = 0x0c then ascii ['\\', 'f']
  else if b = 0x0a then ascii ['\\', 'n']
  else if b = 0x0d then ascii ['\\', 'r']
  else if b = 0x09 then ascii ['\\', 't']
  else if b < 0x20 then ascii ['\\', 'u', '0', '0'] ++ ascii (Text.Hex.encode [b])
  else [b]

/-- A string in quotes. -/
def writeText (s : String) : List UInt8 :=
  byte '"' :: (Text.utf8 s).flatMap escapeByte ++ [byte '"']

/-- A number; a double always shows a point or an exponent. -/
def Number.write : Number → List UInt8
  | .integer n => ascii (toString n).toList
  | .float x => ascii (Decimal.jsonFormat.text x).toList

/-- Written parts between two brackets, divided by commas. -/
def enclose (opener closer : Char) (parts : List (List UInt8)) : List UInt8 :=
  byte opener :: [byte ','].intercalate parts ++ [byte closer]

/-- A value in compact form. -/
def Value.write : Value → List UInt8
  | .null => ascii ['n', 'u', 'l', 'l']
  | .boolean true => ascii ['t', 'r', 'u', 'e']
  | .boolean false => ascii ['f', 'a', 'l', 's', 'e']
  | .number n => n.write
  | .text s => writeText s
  | .list xs => enclose '[' ']' (xs.map fun x => x.write)
  | .object ms => enclose '\x7b' '\x7d' (ms.map fun m => writeText m.1 ++ byte ':' :: m.2.write)
decreasing_by
  · rename_i inside
    have := List.sizeOf_lt_of_mem inside
    simp only [list.sizeOf_spec]
    omega
  · rename_i inside
    have := List.sizeOf_lt_of_mem inside
    have : sizeOf m.2 < sizeOf m := by cases m; simp only [Prod.mk.sizeOf_spec]; omega
    simp only [object.sizeOf_spec]
    omega

/-- The text of a value in compact form. -/
def Value.render (v : Value) : String :=
  (Text.ofUtf8? v.write).getD ""

end MeshTelemetry.Json
