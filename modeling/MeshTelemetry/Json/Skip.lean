import MeshTelemetry.Json.Numeral

/-!
Skipping a value that is not kept.

The value has to be well formed, but strings need not be text, numbers may be of any size, and
nesting may be of any depth: the open brackets are kept on a stack, the innermost first.
-/

namespace MeshTelemetry.Json

/-- An open bracket. -/
inductive Bracket
  | list
  | object
deriving Repr, DecidableEq

/-- The byte that closes a bracket. -/
def Bracket.closer : Bracket → UInt8
  | .list => byte ']'
  | .object => byte '\x7d'

/-- The text ends while the bracket is open. -/
def Bracket.ends : Bracket → Cause
  | .list => .endsInList
  | .object => .endsInObject

/-- Neither a comma nor the closing byte follows a member. -/
def Bracket.expectedComma : Bracket → Cause
  | .list => .expectedCommaOrListEnd
  | .object => .expectedCommaOrObjectEnd

/-- Where a skipped value stands before its next byte. -/
inductive Place
  /-- A value follows. -/
  | value
  /-- A key follows, or in a list a value. -/
  | member
  /-- The innermost bracket has just been opened. -/
  | opened
  /-- A value has just ended. -/
  | after
deriving Repr, DecidableEq

/-- Skip a value without brackets whose first byte is given. -/
def skipScalar (first : UInt8) : Reader Unit := fun text =>
  if first = byte 'n' then word [0x75, 0x6c, 0x6c] (text.drop 1)
  else if first = byte 't' then word [0x72, 0x75, 0x65] (text.drop 1)
  else if first = byte 'f' then word [0x61, 0x6c, 0x73, 0x65] (text.drop 1)
  else if first = byte '"' then skipString (text.drop 1)
  else if first = byte '-' || isDigit first then skipNumber text
  else failOnNext .expectedValue text

/-- The colon behind a key. -/
def colon : Reader Unit := do
  match ← peek with
  | none => failOnNext .endsInObject
  | some b => if b = byte ':' then advance else failOnNext .expectedColon

/-- Skip a key and its colon. -/
def skipKey : Reader Unit := do
  match ← peek with
  | none => failOnNext .endsInObject
  | some b =>
    if b = byte '"' then
      advance
      skipString
      colon
    else failOnNext .keyNotText

/-- One step through a skipped value, inside the given brackets. -/
def skipStep (open_ : List Bracket) : Place → Reader (List Bracket × Place)
  | .value => do
    match ← peek with
    | none => failOnNext .endsInValue
    | some b =>
      if b = byte '[' then
        advance
        return (.list :: open_, .opened)
      else if b = byte '\x7b' then
        advance
        return (.object :: open_, .opened)
      else
        skipScalar b
        return (open_, .after)
  | .member => do
    if open_.head? = some .object then skipKey
    return (open_, .value)
  | .opened => do
    match open_, ← peek with
    | [], _ => return ([], .after)
    | bracket :: _, none => failOnNext bracket.ends
    | bracket :: outer, some b =>
      if b = bracket.closer then
        advance
        return (outer, .after)
      else return (bracket :: outer, .member)
  | .after => do
    match open_ with
    | [] => return ([], .after)
    | bracket :: outer =>
      match ← peek with
      | none => failOnNext bracket.ends
      | some b =>
        if b = byte ',' then
          advance
          return (bracket :: outer, .member)
        else if b = bracket.closer then
          advance
          return (outer, .after)
        else failOnNext bracket.expectedComma

/-- Go on until a value has ended outside all brackets, for at most `bound` steps. -/
def skipSteps (open_ : List Bracket) (place : Place) : Nat → Reader Unit
  | 0 => failOnNext .expectedValue
  | bound + 1 => do
    if open_.isEmpty && place = .after then return ()
    else
      let (inner, next) ← skipStep open_ place
      skipSteps inner next bound

/-- Skip one value of a text of at most `bound` bytes. No byte takes more than three steps. -/
def skipValue (bound : Nat) : Reader Unit :=
  skipSteps [] .value (4 * bound + 4)

end MeshTelemetry.Json
