import MeshTelemetry.Text.Natural
import MeshTelemetry.Toml.Scan

/-!
The plain values of a TOML text: integers, floating-point numbers, booleans, dates and times.

A value is tried as a date or time first, then as a floating-point number, then as an integer. Of a
date or a time only its presence is kept, after it has been checked against the calendar.
-/

namespace MeshTelemetry.Toml

/-! ## Integers -/

/-- A character of a class. -/
def oneOf (p : Char → Bool) : Scan Char := do
  match ← look with
  | none => refuse
  | some c =>
    if p c then
      skip 1
      return c
    else refuse

/-- More digits of a class, each perhaps with an underscore in front of it; `bound` at most. -/
def moreDigits (isDigit : Char → Bool) : Nat → Scan (List Char)
  | 0 => refuse
  | bound + 1 => do
    let taken ← takeWhile isDigit
    if ← accept ['_'] then
      let next ← oneOf isDigit
      return taken ++ next :: (← moreDigits isDigit bound)
    else return taken

/-- At least one digit of a class, with single underscores between digits. -/
def digitRun (isDigit : Char → Bool) (bound : Nat) : Scan (List Char) := do
  let first ← oneOf isDigit
  return first :: (← moreDigits isDigit bound)

/-- A minus sign, or a plus sign that means nothing, or no sign at all; whether there is a minus. -/
def sign : Scan Bool := do
  if ← accept ['-'] then return true
  else
    let _ ← accept ['+']
    return false

/-- Decimal digits without leading zeros, behind an optional sign. -/
def signedDigits (bound : Nat) : Scan (Bool × List Char) := do
  let negative ← sign
  if ← accept ['0'] then return (negative, ['0'])
  else return (negative, ← digitRun Char.isDigit bound)

/-- The value of digits in a base of at most sixteen. -/
def valueIn (base : Nat) (digits : List Char) : Nat :=
  digits.foldl (fun n c => base * n + (Text.Hex.value? c).getD 0) 0

/-- A digit of a base of at most sixteen. -/
def isDigitOf (base : Nat) (c : Char) : Bool :=
  (Text.Hex.value? c).any (· < base)

/-- An integer of 64 bits. -/
def narrow (n : Int) : Scan Int :=
  if -0x8000000000000000 ≤ n ∧ n < 0x8000000000000000 then return n else refuse

/-- Digits in a base other than ten. -/
def basedInteger (base bound : Nat) : Scan Int := do
  narrow (valueIn base (← digitRun (isDigitOf base) bound))

def integer (bound : Nat) : Scan Int := do
  if ← accept ['0', 'x'] then basedInteger 16 bound
  else if ← accept ['0', 'o'] then basedInteger 8 bound
  else if ← accept ['0', 'b'] then basedInteger 2 bound
  else
    let (negative, digits) ← signedDigits bound
    let n : Int := Text.digitsValue 0 digits
    narrow (if negative then -n else n)

/-! ## Floating-point numbers -/

/-- The greatest power of ten that a double can hold, with some room. -/
def powerLimit : Nat := 400

/-- The double nearest to `significand * 10 ^ exponent`; powers far outside the range of doubles
make zero or infinity. -/
def nearest (significand : Nat) (exponent : Int) : Float :=
  let leading : Int := exponent + (Nat.toDigits 10 significand).length
  if significand = 0 ∨ leading < -powerLimit then 0.0
  else if powerLimit < leading then Float.ofScientific 1 false powerLimit
  else Float.ofScientific significand (exponent < 0) exponent.natAbs

/-- An exponent, if one follows. -/
def exponent? (bound : Nat) : Scan (Option Int) := do
  if (← look).any fun c => c = 'e' || c = 'E' then
    skip 1
    let negative ← sign
    let n : Int := Text.digitsValue 0 (← digitRun Char.isDigit bound)
    return some (if negative then -n else n)
  else return none

/-- A floating-point number in digits: it has a fraction or an exponent. A positive one beyond the
greatest double is refused. -/
def digitFloat (bound : Nat) : Scan Float := do
  let (negative, whole) ← signedDigits bound
  let fraction ← if ← accept ['.'] then some <$> digitRun Char.isDigit bound else pure none
  let exponent ← exponent? bound
  if fraction.isNone && exponent.isNone then refuse
  else
    let places := fraction.getD []
    let magnitude := nearest (Text.digitsValue 0 (whole ++ places))
      (exponent.getD 0 - places.length)
    if magnitude.isInf && !negative then refuse
    else return if negative then -magnitude else magnitude

/-- Infinity or no number, by name. -/
def namedFloat : Scan Float := do
  let negative ← sign
  let x : Float ← if ← accept ['i', 'n', 'f'] then pure (1.0 / 0.0)
    else do
      exactly ['n', 'a', 'n']
      pure (0.0 / 0.0)
  return if negative then -x else x

/-! ## Dates and times -/

/-- A number of exactly `count` digits within limits. -/
def fixedNumber (count least most : Nat) : Scan Nat := fun c =>
  let digits := c.rest.take count
  let n := Text.digitsValue 0 digits
  if digits.length = count ∧ digits.all Char.isDigit ∧ least ≤ n ∧ n ≤ most then
    some (n, ⟨c.rest.drop count, c.offset + count⟩)
  else none

/-- A year with a twenty-ninth of February. -/
def isLeapYear (year : Nat) : Bool :=
  year % 4 = 0 && (year % 100 ≠ 0 || year % 400 = 0)

/-- The days of a month. -/
def daysIn (year month : Nat) : Nat :=
  if month = 2 then if isLeapYear year then 29 else 28
  else if month = 4 ∨ month = 6 ∨ month = 9 ∨ month = 11 then 30
  else 31

/-- A day of the calendar. -/
def date : Scan Unit := do
  let year ← fixedNumber 4 0 9999
  exactly ['-']
  let month ← fixedNumber 2 1 12
  exactly ['-']
  let _ ← fixedNumber 2 1 (daysIn year month)

/-- A time of day, perhaps with a fraction of a second. A second may be a leap second. -/
def time : Scan Unit := do
  let _ ← fixedNumber 2 0 23
  exactly [':']
  let _ ← fixedNumber 2 0 59
  exactly [':']
  let _ ← fixedNumber 2 0 60
  (do
    exactly ['.']
    let _ ← takeSome Char.isDigit) <|> pure ()

/-- The offset of a time from universal time. -/
def timeOffset : Scan Unit := do
  match ← oneOf fun c => c = 'Z' || c = 'z' || c = '+' || c = '-' with
  | 'Z' => return ()
  | 'z' => return ()
  | _ =>
    let _ ← fixedNumber 2 0 23
    exactly [':']
    let _ ← fixedNumber 2 0 59

/-- A date, a time, or both with perhaps an offset. -/
def moment : Scan Unit :=
  (do
    date
    (do
      let _ ← oneOf fun c => c = 'T' || c = 't' || c = ' '
      time
      timeOffset <|> pure ()) <|> pure ()) <|> time

/-! ## All plain values -/

def boolean : Scan Bool := do
  if ← accept ['t', 'r', 'u', 'e'] then return true
  else
    exactly ['f', 'a', 'l', 's', 'e']
    return false

/-- A value that holds no other values. -/
def scalar (bound : Nat) : Scan Item := do
  match ← look with
  | none => refuse
  | some c =>
    if c = '"' || c = '\'' then .text <$> anyString bound
    else if c = 't' || c = 'f' then .boolean <$> boolean
    else
      (do
        moment
        return .moment) <|> .float <$> digitFloat bound <|> .float <$> namedFloat <|>
        .integer <$> integer bound

end MeshTelemetry.Toml
