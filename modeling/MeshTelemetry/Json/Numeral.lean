import MeshTelemetry.Json.Basic
import MeshTelemetry.Json.Scan

/-!
Numbers of a JSON text.

The digits of a number are gathered into a significand as long as it fits 64 bits. Digits of the
integral part beyond that only raise the exponent, digits of the fraction beyond that are ignored.
What is no plain integer is the significand as a double, multiplied or divided by one power of ten.
A number that is skipped has to be well formed and nothing else.
-/

namespace MeshTelemetry.Json

/-- The value of a digit. -/
def digitValue (b : UInt8) : Nat :=
  b.toNat - 0x30

/-- Digits gathered from the front of a text: their value behind the digits gathered before, how
many they are, and the text behind them. -/
structure Gathered where
  value : Nat
  count : Nat
  rest : List UInt8

/-- Gather digits as long as the value does not exceed a limit. -/
def gather (limit value count : Nat) : List UInt8 → Gathered
  | [] => ⟨value, count, []⟩
  | b :: rest =>
    if isDigit b && 10 * value + digitValue b ≤ limit then
      gather limit (10 * value + digitValue b) (count + 1) rest
    else ⟨value, count, b :: rest⟩

/-- The greatest significand. -/
def significandLimit : Nat := 0xffffffffffffffff

/-- The greatest exponent that is told from an infinite one. -/
def exponentLimit : Nat := 0x7fffffff

/-- A text goes on with a digit. -/
def startsWithDigit (text : List UInt8) : Bool :=
  text.head?.any isDigit

/-- The power of ten with the given exponent. -/
def powerOfTen (exponent : Nat) : Float :=
  Float.ofScientific 1 false exponent

/-- `x * 10 ^ exponent`, or nothing if that is beyond the greatest double. Exponents outside the
range of doubles are taken off in steps of 308. -/
def scaled? (x : Float) (exponent : Int) : Option Float :=
  if exponent.natAbs ≤ 308 then
    if 0 ≤ exponent then
      let y := x * powerOfTen exponent.natAbs
      if y.isInf then none else some y
    else some (x / powerOfTen exponent.natAbs)
  else if x == 0.0 then some x
  else if 0 ≤ exponent then none
  else scaled? (x / powerOfTen 308) (exponent + 308)
termination_by (-exponent).toNat

/-- The sign of a number applied to its magnitude. -/
def signed (negative : Bool) (x : Float) : Float :=
  if negative then -x else x

/-- The number with the given significand and exponent. -/
def assemble (negative : Bool) (significand : Nat) (exponent : Int) : Reader Number := do
  match scaled? (Float.ofNat significand) exponent with
  | some x => return .float (signed negative x)
  | none => failBehind .numberOutOfRange

/-- The digits of an exponent whose sign has been read, added to or taken from `start`. An exponent
beyond the limit makes zero, or a number out of range. -/
def exponentDigits (negative : Bool) (significand : Nat) (start : Int) (down : Bool) :
    Reader Number
  | [] => failBehind .endsInValue []
  | first :: rest =>
    if isDigit first then
      let digits := gather exponentLimit (digitValue first) 1 rest
      if startsWithDigit digits.rest then
        if significand ≠ 0 && !down then failBehind .numberOutOfRange (digits.rest.drop 1)
        else .ok (.float (signed negative 0.0), digits.rest.dropWhile isDigit)
      else
        let exponent := if down then start - digits.value else start + digits.value
        assemble negative significand exponent digits.rest
    else failBehind .invalidNumber rest

/-- An exponent behind its letter. -/
def exponentPart (negative : Bool) (significand : Nat) (start : Int) (text : List UInt8) :
    Except Fault (Number × List UInt8) :=
  if text.head? = some (byte '+') then exponentDigits negative significand start false (text.drop 1)
  else if text.head? = some (byte '-') then
    exponentDigits negative significand start true (text.drop 1)
  else exponentDigits negative significand start false text

/-- The letter in front of an exponent. -/
def isExponentMark (b : UInt8) : Bool :=
  b = byte 'e' || b = byte 'E'

/-- An exponent, if one follows. -/
def optionalExponent (negative : Bool) (significand : Nat) (exponent : Int) (text : List UInt8) :
    Except Fault (Number × List UInt8) :=
  if text.head?.any isExponentMark then exponentPart negative significand exponent (text.drop 1)
  else assemble negative significand exponent text

/-- The digits of a fraction behind the point. -/
def fractionPart (negative : Bool) (significand : Nat) (exponent : Int) (text : List UInt8) :
    Except Fault (Number × List UInt8) :=
  let digits := gather significandLimit significand 0 text
  let scaledBy := exponent - digits.count
  if startsWithDigit digits.rest then
    optionalExponent negative digits.value scaledBy (digits.rest.dropWhile isDigit)
  else if digits.count = 0 then
    if text.isEmpty then failOnNext .endsInValue text else failOnNext .invalidNumber text
  else optionalExponent negative digits.value scaledBy digits.rest

/-- An integer whose significand fits 64 bits; a negative one has to fit 64 bits with its sign, and
zero has no negative. -/
def integerOf (negative : Bool) (significand : Nat) : Number :=
  if negative then
    if 0 < significand ∧ significand ≤ 0x8000000000000000 then .integer (-significand)
    else .float (-(Float.ofNat significand))
  else .integer significand

/-- What follows the integral part: nothing, a fraction, or an exponent. -/
def afterInteger (negative : Bool) (significand : Nat) (text : List UInt8) :
    Except Fault (Number × List UInt8) :=
  if text.head? = some (byte '.') then fractionPart negative significand 0 (text.drop 1)
  else if text.head?.any isExponentMark then exponentPart negative significand 0 (text.drop 1)
  else .ok (integerOf negative significand, text)

/-- What follows an integral part of which `dropped` digits did not fit the significand. -/
def afterLongInteger (negative : Bool) (significand dropped : Nat) (text : List UInt8) :
    Except Fault (Number × List UInt8) :=
  if text.head? = some (byte '.') then fractionPart negative significand dropped (text.drop 1)
  else optionalExponent negative significand dropped text

/-- A number behind its sign. A zero in front of another digit is refused. -/
def unsignedNumber (negative : Bool) : Reader Number
  | [] => failBehind .endsInValue []
  | first :: rest =>
    if first = byte '0' then
      if startsWithDigit rest then failOnNext .invalidNumber rest
      else afterInteger negative 0 rest
    else if isDigit first then
      let digits := gather significandLimit (digitValue first) 1 rest
      if startsWithDigit digits.rest then
        let dropped := digits.rest.takeWhile isDigit
        afterLongInteger negative digits.value dropped.length (digits.rest.dropWhile isDigit)
      else afterInteger negative digits.value digits.rest
    else failBehind .invalidNumber rest

/-- A number; the text starts with a minus sign or a digit. -/
def number : Reader Number := fun text =>
  if text.head? = some (byte '-') then unsignedNumber true (text.drop 1)
  else unsignedNumber false text

/-! ## Skipped numbers -/

/-- Skip an exponent behind its letter. -/
def skipExponent (text : List UInt8) : Except Fault (Unit × List UInt8) :=
  let isSign := fun b : UInt8 => b = byte '+' || b = byte '-'
  let digits := if text.head?.any isSign then text.drop 1 else text
  if startsWithDigit digits then .ok ((), digits.dropWhile isDigit)
  else failBehind .invalidNumber (digits.drop 1)

/-- Skip an exponent, if one follows. -/
def skipOptionalExponent (text : List UInt8) : Except Fault (Unit × List UInt8) :=
  if text.head?.any isExponentMark then skipExponent (text.drop 1) else .ok ((), text)

/-- Skip what follows the integral part. -/
def skipAfterInteger (text : List UInt8) : Except Fault (Unit × List UInt8) :=
  if text.head? = some (byte '.') then
    if startsWithDigit (text.drop 1) then
      skipOptionalExponent ((text.drop 1).dropWhile isDigit)
    else failOnNext .invalidNumber (text.drop 1)
  else skipOptionalExponent text

/-- Skip a number behind its sign. -/
def skipUnsigned : Reader Unit
  | [] => failBehind .invalidNumber []
  | first :: rest =>
    if first = byte '0' then
      if startsWithDigit rest then failOnNext .invalidNumber rest else skipAfterInteger rest
    else if isDigit first then skipAfterInteger (rest.dropWhile isDigit)
    else failBehind .invalidNumber rest

/-- Skip a number; the text starts with a minus sign or a digit. -/
def skipNumber : Reader Unit := fun text =>
  if text.head? = some (byte '-') then skipUnsigned (text.drop 1) else skipUnsigned text

end MeshTelemetry.Json
