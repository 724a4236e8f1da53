import MeshTelemetry.Mismatch

/-!
Faults of a JSON text: what is wrong and where. The place is kept as the number of bytes behind
it, from which the whole text gives line and column.
-/

namespace MeshTelemetry.Json

/-- What is wrong with a JSON text. -/
inductive Cause
  | endsInList
  | endsInObject
  | endsInText
  | endsInValue
  | expectedColon
  | expectedCommaOrListEnd
  | expectedCommaOrObjectEnd
  | expectedWord
  | expectedValue
  | invalidEscape
  | invalidNumber
  | numberOutOfRange
  | invalidUnicode
  | controlCharacter
  | keyNotText
  | loneSurrogate
  | trailingComma
  | trailingCharacters
  | unfinishedSurrogatePair
  | nestedTooDeep
  | duplicateField (name : String)
  | mismatch (reason : Mismatch)
deriving Repr

def Cause.message : Cause → String
  | .endsInList => "EOF while parsing a list"
  | .endsInObject => "EOF while parsing an object"
  | .endsInText => "EOF while parsing a string"
  | .endsInValue => "EOF while parsing a value"
  | .expectedColon => "expected `:`"
  | .expectedCommaOrListEnd => "expected `,` or `]`"
  | .expectedCommaOrObjectEnd => "expected `,` or `\x7d`"
  | .expectedWord => "expected ident"
  | .expectedValue => "expected value"
  | .invalidEscape => "invalid escape"
  | .invalidNumber => "invalid number"
  | .numberOutOfRange => "number out of range"
  | .invalidUnicode => "invalid unicode code point"
  | .controlCharacter => "control character (\\u0000-\\u001F) found while parsing a string"
  | .keyNotText => "key must be a string"
  | .loneSurrogate => "lone leading surrogate in hex escape"
  | .trailingComma => "trailing comma"
  | .trailingCharacters => "trailing characters"
  | .unfinishedSurrogatePair => "unexpected end of hex escape"
  | .nestedTooDeep => "recursion limit exceeded"
  | .duplicateField name => "duplicate field `" ++ name ++ "`"
  | .mismatch reason => reason.message Decimal.jsonFormat

/-- A cause together with the number of bytes that lie behind its place. -/
structure Fault where
  cause : Cause
  left : Nat
deriving Repr

/-- The line feed. -/
def lineFeed : UInt8 := 0x0a

/-- The line, counted from one, and the column, counted in bytes, at which a text stops that is
the beginning of a longer one. -/
def position (before : List UInt8) : Nat × Nat :=
  (before.count lineFeed + 1, (before.reverse.takeWhile (· ≠ lineFeed)).length)

/-- A cause with its place as a reader of the text counts it. -/
structure Located where
  cause : Cause
  line : Nat
  column : Nat
deriving Repr

/-- The line and column of a fault of the given text. -/
def Fault.locate (text : List UInt8) (fault : Fault) : Located :=
  let (line, column) := position (text.take (text.length - fault.left))
  ⟨fault.cause, line, column⟩

def Located.message (l : Located) : String :=
  l.cause.message ++ " at line " ++ toString l.line ++ " column " ++ toString l.column

end MeshTelemetry.Json
