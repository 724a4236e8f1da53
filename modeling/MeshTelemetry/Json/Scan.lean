import MeshTelemetry.Json.Fault
import MeshTelemetry.Text.Hex
import MeshTelemetry.Text.Utf8

/-!
The small steps of reading a JSON text: blanks, words, and the contents of strings.

A `Reader` consumes bytes from the front of the unread text. A fault is placed either behind the
last byte consumed (`failBehind`) or on the next one (`failOnNext`); at the end of the text both
are the same place.
-/

namespace MeshTelemetry.Json

/-- A step that reads from the front of the text. -/
abbrev Reader (α : Type) :=
  StateT (List UInt8) (Except Fault) α

/-- A fault behind the last byte that was consumed. -/
def failBehind {α : Type} (cause : Cause) : Reader α := fun rest =>
  .error ⟨cause, rest.length⟩

/-- A fault on the next byte. -/
def failOnNext {α : Type} (cause : Cause) : Reader α := fun rest =>
  .error ⟨cause, rest.length - 1⟩

/-- A fault some bytes before the last one consumed. -/
def failBefore {α : Type} (count : Nat) (cause : Cause) : Reader α := fun rest =>
  .error ⟨cause, rest.length + count⟩

/-- Space, tab and the two line breaks. -/
def isBlank (b : UInt8) : Bool :=
  b = 0x20 || b = 0x09 || b = 0x0a || b = 0x0d

/-- The byte of an ASCII character. -/
def byte (c : Char) : UInt8 :=
  c.toUInt8

/-- A decimal digit. -/
def isDigit (b : UInt8) : Bool :=
  0x30 ≤ b && b ≤ 0x39

/-- Skip blanks and look at the next byte without consuming it. -/
def peek : Reader (Option UInt8) := fun text =>
  let rest := text.dropWhile isBlank
  .ok (rest.head?, rest)

/-- Consume one byte. -/
def advance : Reader Unit := fun text =>
  .ok ((), text.drop 1)

/-- Consume exactly these bytes, the rest of a word such as `null` behind its first letter. -/
def word : List UInt8 → Reader Unit
  | [], text => .ok ((), text)
  | _ :: _, [] => failBehind .endsInValue []
  | expected :: more, b :: rest =>
    if b = expected then word more rest else failBehind .expectedWord rest

/-! ## Strings -/

/-- The value of four hexadecimal digits. -/
def hexValue? (a b c d : UInt8) : Option Nat := do
  let digit := fun (x : UInt8) => Text.Hex.value? (Char.ofNat x.toNat)
  return 4096 * (← digit a) + 256 * (← digit b) + 16 * (← digit c) + (← digit d)

/-- The code unit behind a backslash and the letter u. -/
def codeUnit : Reader Nat
  | a :: b :: c :: d :: rest =>
    match hexValue? a b c d with
    | some n => .ok (n, rest)
    | none => failBehind .invalidEscape rest
  | _ => failBehind .endsInText []

/-- A code unit that opens a surrogate pair. -/
def isHighSurrogate (n : Nat) : Bool :=
  0xd800 ≤ n && n ≤ 0xdbff

/-- A code unit that closes a surrogate pair. -/
def isLowSurrogate (n : Nat) : Bool :=
  0xdc00 ≤ n && n ≤ 0xdfff

/-- The second half of a surrogate pair must begin with this byte. -/
def pairByte (expected : UInt8) : Reader Unit
  | [] => failBehind .endsInText []
  | b :: rest => if b = expected then .ok ((), rest) else failBehind .unfinishedSurrogatePair rest

/-- The character behind a backslash and the letter u; one beyond sixteen bits is written as a
surrogate pair. -/
def unicodeEscape : Reader Char := do
  let high ← codeUnit
  if isLowSurrogate high then failBehind .loneSurrogate
  else if isHighSurrogate high then
    pairByte (byte '\\')
    pairByte (byte 'u')
    let low ← codeUnit
    if isLowSurrogate low then
      return Char.ofNat (0x10000 + (high - 0xd800) * 0x400 + (low - 0xdc00))
    else failBehind .loneSurrogate
  else return Char.ofNat high

/-- The character that a letter behind a backslash stands for. -/
def shortEscape? (b : UInt8) : Option Char :=
  if b = byte '"' then some '"'
  else if b = byte '\\' then some '\\'
  else if b = byte '/' then some '/'
  else if b = byte 'b' then some '\x08'
  else if b = byte 'f' then some '\x0c'
  else if b = byte 'n' then some '\n'
  else if b = byte 'r' then some '\r'
  else if b = byte 't' then some '\t'
  else none

/-- The character behind a backslash. -/
def escape : Reader Char
  | [] => failBehind .endsInText []
  | b :: rest =>
    match shortEscape? b with
    | some c => .ok (c, rest)
    | none => if b = byte 'u' then unicodeEscape rest else failBehind .invalidEscape rest

/-- What stands behind a backslash in a string that is not kept: any code unit will do. -/
def skipEscape : Reader Unit
  | [] => failBehind .endsInText []
  | b :: rest =>
    match shortEscape? b with
    | some _ => .ok ((), rest)
    | none =>
      if b = byte 'u' then (codeUnit rest).map fun p => ((), p.2)
      else failBehind .invalidEscape rest

/-! ## Progress -/

/-- The reader never gives bytes back. -/
def Consumes {α : Type} (r : Reader α) : Prop :=
  ∀ text x rest, r text = .ok (x, rest) → rest.length ≤ text.length

theorem consumes_pure {α : Type} (x : α) : Consumes (pure x : Reader α) := by
  intro text y rest run
  cases run
  exact Nat.le_refl _

theorem consumes_failBehind {α : Type} (cause : Cause) :
    Consumes (failBehind cause : Reader α) := by
  intro text y rest run
  cases run

theorem Consumes.bind {α β : Type} {r : Reader α} {f : α → Reader β}
    (hr : Consumes r) (hf : ∀ x, Consumes (f x)) : Consumes (r >>= f) := by
  intro text y rest run
  change (r text >>= fun p => f p.1 p.2) = _ at run
  cases first : r text with
  | error fault => rw [first] at run; cases run
  | ok p =>
    rw [first] at run
    exact Nat.le_trans (hf p.1 p.2 y rest run) (hr text p.1 p.2 first)

theorem consumes_codeUnit : Consumes codeUnit := by
  intro text x rest run
  unfold codeUnit at run
  split at run
  · split at run <;> cases run
    simp only [List.length_cons]
    omega
  · cases run

theorem consumes_pairByte (expected : UInt8) : Consumes (pairByte expected) := by
  intro text x rest run
  unfold pairByte at run
  split at run
  · cases run
  · split at run <;> cases run
    simp

theorem consumes_unicodeEscape : Consumes unicodeEscape := by
  refine consumes_codeUnit.bind fun high => ?_
  split
  · exact consumes_failBehind _
  · split
    · refine (consumes_pairByte _).bind fun _ => (consumes_pairByte _).bind fun _ =>
        consumes_codeUnit.bind fun low => ?_
      split
      · exact consumes_pure _
      · exact consumes_failBehind _
    · exact consumes_pure _

theorem consumes_escape : Consumes escape := by
  intro text x rest run
  unfold escape at run
  split at run
  · cases run
  · rename_i b more
    have shorter : rest.length ≤ more.length := by
      split at run
      · cases run; exact Nat.le_refl _
      · split at run
        · exact consumes_unicodeEscape more x rest run
        · cases run
    simp only [List.length_cons]
    omega

theorem consumes_skipEscape : Consumes skipEscape := by
  intro text x rest run
  unfold skipEscape at run
  split at run
  · cases run
  · rename_i b more
    have shorter : rest.length ≤ more.length := by
      split at run
      · cases run; exact Nat.le_refl _
      · split at run
        · cases read : codeUnit more with
          | error fault => rw [read] at run; cases run
          | ok p =>
            rw [read] at run
            cases run
            exact consumes_codeUnit more p.1 p.2 read
        · cases run
    simp only [List.length_cons]
    omega

/-! ## Whole strings -/

/-- The bytes of a string up to its closing quote, behind the ones in `taken`. -/
def stringBytes (taken : Array UInt8) (text : List UInt8) :
    Except Fault (Array UInt8 × List UInt8) :=
  match text with
  | [] => .error ⟨.endsInText, 0⟩
  | b :: rest =>
    if b = byte '"' then .ok (taken, rest)
    else if b = byte '\\' then
      match step : escape rest with
      | .error fault => .error fault
      | .ok (c, more) =>
        have := consumes_escape _ _ _ step
        stringBytes (taken ++ String.utf8EncodeChar c) more
    else if b < 0x20 then .error ⟨.controlCharacter, rest.length⟩
    else stringBytes (taken.push b) rest
termination_by text.length
decreasing_by all_goals simp only [List.length_cons]; omega

/-- The contents of a string behind its opening quote. If they are no text, the fault is placed on
the first byte that belongs to no character, counted from the end of the string. -/
def stringBody : Reader String := do
  let bytes ← stringBytes #[]
  match String.fromUTF8? ⟨bytes⟩ with
  | some s => return s
  | none => failBefore (bytes.size - Text.textLength 0 bytes.toList) .invalidUnicode

/-- Skip the contents of a string that is not kept. Its bytes need not be text. -/
def skipString (text : List UInt8) : Except Fault (Unit × List UInt8) :=
  match text with
  | [] => .error ⟨.endsInText, 0⟩
  | b :: rest =>
    if b = byte '"' then .ok ((), rest)
    else if b = byte '\\' then
      match step : skipEscape rest with
      | .error fault => .error fault
      | .ok (_, more) =>
        have := consumes_skipEscape _ _ _ step
        skipString more
    else if b < 0x20 then .error ⟨.controlCharacter, text.length⟩
    else skipString rest
termination_by text.length
decreasing_by all_goals simp only [List.length_cons]; omega

end MeshTelemetry.Json
