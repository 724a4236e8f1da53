import MeshTelemetry.Json.Skip

/-!
Reading kept values and the members of objects.

Kept values nest to a limited depth; every reader that goes through elements or members takes a
`bound` on their number, for which the length of the whole text will do.
-/

namespace MeshTelemetry.Json

/-- A value that does not fit, behind what was read of it. -/
def misfit {α : Type} (reason : Mismatch) : Reader α :=
  failBehind (.mismatch reason)

/-- Look at the first byte of the next value. -/
def peekValue : Reader UInt8 := do
  match ← peek with
  | none => failOnNext .endsInValue
  | some b => return b

/-- The next value is of a wrong type. Its text must be well formed to be named, but for lists and
objects, which are named by their first byte. -/
def refuse {α : Type} (expected : String) : Reader α := do
  let b ← peekValue
  if b = byte 'n' then
    advance
    word [0x75, 0x6c, 0x6c]
    misfit (.wrongType .null expected)
  else if b = byte 't' then
    advance
    word [0x72, 0x75, 0x65]
    misfit (.wrongType (.boolean true) expected)
  else if b = byte 'f' then
    advance
    word [0x61, 0x6c, 0x73, 0x65]
    misfit (.wrongType (.boolean false) expected)
  else if b = byte '-' || isDigit b then
    match ← number with
    | .integer n => misfit (.wrongType (.integer n) expected)
    | .float x => misfit (.wrongType (.float x) expected)
  else if b = byte '"' then
    advance
    misfit (.wrongType (.text (← stringBody)) expected)
  else if b = byte '[' then misfit (.wrongType .sequence expected)
  else if b = byte '\x7b' then misfit (.wrongType .map expected)
  else failOnNext .expectedValue

/-! ## Elements of a list -/

/-- Whether another element follows; a comma in front of it is consumed. -/
def hasItem (first : Bool) : Reader Bool := do
  match ← peek with
  | none => failOnNext .endsInList
  | some b =>
    if b = byte ']' then return false
    else if first then return true
    else if b = byte ',' then
      advance
      if (← peekValue) = byte ']' then failOnNext .trailingComma else return true
    else failOnNext .expectedCommaOrListEnd

/-- The end of a list. -/
def closeList : Reader Unit := do
  match ← peek with
  | none => failOnNext .endsInList
  | some b =>
    if b = byte ']' then advance
    else if b = byte ',' then
      advance
      if (← peek) = some (byte ']') then failOnNext .trailingComma
      else failOnNext .trailingCharacters
    else failOnNext .trailingCharacters

/-- All elements up to the end of a list, at most `bound`. -/
def items {α : Type} (item : Reader α) (taken : Array α) : Nat → Reader (Array α)
  | 0 => failOnNext .expectedValue
  | bound + 1 => do
    if ← hasItem taken.isEmpty then
      let x ← item
      items item (taken.push x) bound
    else return taken

/-- Elements that have a meaning by their position, as far as the list goes. -/
def positions {α : Type} (first : Bool) : List (Reader α) → Reader (List α)
  | [] => return []
  | item :: more => do
    if ← hasItem first then
      let x ← item
      return x :: (← positions false more)
    else return []

/-! ## Members of an object -/

/-- The key of the next member, if there is one. A comma in front of it is consumed. -/
def nextKey (first : Bool) : Reader (Option String) := do
  let key := do
    advance
    return some (← stringBody)
  match ← peek with
  | none => failOnNext .endsInObject
  | some b =>
    if b = byte '\x7d' then return none
    else if first then
      if b = byte '"' then key else failOnNext .keyNotText
    else if b = byte ',' then
      advance
      let b ← peekValue
      if b = byte '"' then key
      else if b = byte '\x7d' then failOnNext .trailingComma
      else failOnNext .keyNotText
    else failOnNext .expectedCommaOrObjectEnd

/-- The end of an object. -/
def closeObject : Reader Unit := do
  match ← peek with
  | none => failOnNext .endsInObject
  | some b =>
    if b = byte '\x7d' then advance
    else if b = byte ',' then failOnNext .trailingComma
    else failOnNext .trailingCharacters

/-- A key that must not occur twice does. The fault is placed before the next byte, or behind it if
it ends the object. -/
def duplicate {α : Type} (name : String) : Reader α := do
  if (← peek) = some (byte '\x7d') then advance
  failBehind (.duplicateField name)

/-- How the members of an object are read. -/
structure Shape (μ : Type) where
  /-- The name under which a key counts, if it may occur only once. -/
  fieldName : String → Option String
  /-- The value under a key. -/
  member : String → Reader μ

/-- All members up to the end of an object, at most `bound`; the names in `seen` have occurred. -/
def members {μ : Type} (shape : Shape μ) (seen : List String) (taken : Array μ) :
    Nat → Reader (Array μ)
  | 0 => failOnNext .expectedValue
  | bound + 1 => do
    match ← nextKey taken.isEmpty with
    | none => return taken
    | some key =>
      match shape.fieldName key with
      | none =>
        colon
        let m ← shape.member key
        members shape seen (taken.push m) bound
      | some name =>
        if name ∈ seen then duplicate name
        else
          colon
          let m ← shape.member key
          members shape (name :: seen) (taken.push m) bound

/-- The members of an object from its opening to its closing brace. -/
def braced {μ : Type} (shape : Shape μ) (bound : Nat) : Reader (List μ) := do
  advance
  let ms ← members shape [] #[] bound
  closeObject
  return ms.toList

/-- The elements of a list by position, from its opening to its closing bracket. -/
def bracketed {μ : Type} (elements : List (Reader μ)) : Reader (List μ) := do
  advance
  let ms ← positions true elements
  closeList
  return ms

/-! ## Values -/

/-- How many brackets may be open at once. -/
def nestingLimit : Nat := 127

/-- A kept value, given the readers for lists and objects. -/
def valueWith (list object : Reader Value) : Reader Value := do
  let b ← peekValue
  if b = byte 'n' then
    advance
    word [0x75, 0x6c, 0x6c]
    return .null
  else if b = byte 't' then
    advance
    word [0x72, 0x75, 0x65]
    return .boolean true
  else if b = byte 'f' then
    advance
    word [0x61, 0x6c, 0x73, 0x65]
    return .boolean false
  else if b = byte '-' || isDigit b then return .number (← number)
  else if b = byte '"' then
    advance
    return .text (← stringBody)
  else if b = byte '[' then list
  else if b = byte '\x7b' then object
  else failOnNext .expectedValue

/-- A list of values. -/
def listOf (bound : Nat) (inner : Reader Value) : Reader Value := do
  advance
  let xs ← items inner #[] bound
  closeList
  return .list xs.toList

/-- Members without any rule about their keys. -/
def freeShape (inner : Reader Value) : Shape (String × Value) :=
  ⟨fun _ => none, fun key => return (key, ← inner)⟩

/-- An object of values. -/
def objectOf (bound : Nat) (inner : Reader Value) : Reader Value := do
  return .object (Entries.ofList (← braced (freeShape inner) bound))

/-- A kept value inside which the given number of brackets may be open at once. -/
def value (bound : Nat) : Nat → Reader Value
  | 0 => valueWith (failOnNext .nestedTooDeep) (failOnNext .nestedTooDeep)
  | levels + 1 =>
    valueWith (listOf bound (value bound levels)) (objectOf bound (value bound levels))

/-! ## Typed values -/

/-- A value that may be missing, written as null. -/
def optional {α : Type} (inner : Reader α) : Reader (Option α) := do
  if (← peek) = some (byte 'n') then
    advance
    word [0x75, 0x6c, 0x6c]
    return none
  else return some (← inner)

def text : Reader String := do
  if (← peekValue) = byte '"' then
    advance
    stringBody
  else refuse "a string"

/-- A number of either kind, as a double. -/
def double : Reader Float := do
  let b ← peekValue
  if b = byte '-' || isDigit b then return (← number).toFloat
  else refuse "f64"

/-- A count below 2^32. -/
def count : Reader UInt32 := do
  let b ← peekValue
  if b = byte '-' || isDigit b then
    match ← number with
    | .integer n =>
      if 0 ≤ n ∧ n ≤ 0xffffffff then return UInt32.ofNat n.toNat
      else misfit (.wrongValue (.integer n) "u32")
    | .float x => misfit (.wrongType (.float x) "u32")
  else refuse "u32"

/-- A record written as an object. -/
def object {μ : Type} (shape : Shape μ) (expected : String) (bound : Nat) : Reader (List μ) := do
  if (← peekValue) = byte '\x7b' then braced shape bound else refuse expected

/-- A record written as an object or as the list of its fields. -/
def record {μ : Type} (shape : Shape μ) (elements : List (Reader μ)) (expected : String)
    (bound : Nat) : Reader (List μ) := do
  let b ← peekValue
  if b = byte '\x7b' then braced shape bound
  else if b = byte '[' then bracketed elements
  else refuse expected

/-- One value with nothing but blanks behind it. -/
def alone {α : Type} (inner : Reader α) : Reader α := do
  let x ← inner
  match ← peek with
  | none => return x
  | some _ => failOnNext .trailingCharacters

/-- Read a whole text. -/
def readWhole {α : Type} (inner : Reader α) (text : List UInt8) : Except Located α :=
  match alone inner text with
  | .ok (x, _) => .ok x
  | .error fault => .error (fault.locate text)

end MeshTelemetry.Json
