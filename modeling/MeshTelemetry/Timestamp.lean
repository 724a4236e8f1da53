import MeshTelemetry.Interval

/-!
Moments with an offset from universal time, and their texts.

A moment is written in the profile of ISO 8601 for the Internet if that profile can show it: the
year has four digits and the offset whole minutes. Otherwise date, time and offset are written one
after the other.
-/

namespace MeshTelemetry

/-- Nanoseconds since the epoch, and the offset of the clock that shows them in seconds east. -/
structure Timestamp where
  nanos : Int
  offset : Int
deriving Repr, DecidableEq

namespace Timestamp

/-- The start of the epoch. -/
def epoch : Timestamp :=
  ⟨0, 0⟩

/-- A day of the calendar. -/
structure Date where
  year : Int
  month : Nat
  day : Nat
deriving Repr, DecidableEq

/-- The date of a day counted from the start of the epoch. Years are taken to begin in March, in
eras of four hundred years. -/
def Date.ofDays (days : Int) : Date :=
  let shifted := days + 719468
  let era := Int.fdiv shifted 146097
  let dayOfEra := (Int.fmod shifted 146097).toNat
  let yearOfEra := (dayOfEra - dayOfEra / 1460 + dayOfEra / 36524 - dayOfEra / 146096) / 365
  let dayOfYear := dayOfEra - (365 * yearOfEra + yearOfEra / 4 - yearOfEra / 100)
  let marchMonth := (5 * dayOfYear + 2) / 153
  let month := if marchMonth < 10 then marchMonth + 3 else marchMonth - 9
  { year := era * 400 + yearOfEra + if month ≤ 2 then 1 else 0
    month := month
    day := dayOfYear - (153 * marchMonth + 2) / 5 + 1 }

/-- Decimal digits, filled up with zeros to a width. -/
def padded (width n : Nat) : List Char :=
  let digits := Text.decimal n
  List.replicate (width - digits.length) '0' ++ digits

/-- Year, month and day with dashes between them. -/
def Date.print (date : Date) : List Char :=
  padded 4 date.year.natAbs ++ '-' :: padded 2 date.month ++ '-' :: padded 2 date.day

/-- A fraction of a second in nanoseconds, without trailing zeros. -/
def fraction (nanos : Nat) : List Char :=
  ((padded 9 nanos).reverse.dropWhile (· = '0')).reverse

/-- The day and the nanoseconds of the day that a clock with the offset shows. -/
def shown (t : Timestamp) : Int × Nat :=
  let moved := t.nanos + t.offset * Interval.second
  let day := 86400 * Interval.second
  (Int.fdiv moved day, (Int.fmod moved day).toNat)

/-- The sign of an offset. -/
def sign (n : Int) : Char :=
  if n < 0 then '-' else '+'

/-- The Internet profile can show the moment. -/
def isPlain (t : Timestamp) : Bool :=
  let year := (Date.ofDays t.shown.1).year
  0 ≤ year && year < 10000 && t.offset.natAbs % 60 = 0 && t.offset.natAbs / 3600 ≤ 23

/-- The text in the Internet profile. -/
def plainText (t : Timestamp) : List Char :=
  let (days, nanos) := t.shown
  let date := Date.ofDays days
  let seconds := nanos / Interval.second
  let clock := padded 2 (seconds / 3600) ++ ':' :: padded 2 (seconds / 60 % 60) ++
    ':' :: padded 2 (seconds % 60)
  let part := if nanos % Interval.second = 0 then [] else '.' :: fraction (nanos % Interval.second)
  let minutes := t.offset.natAbs / 60
  let zone := if t.offset = 0 then ['Z']
    else sign t.offset :: padded 2 (minutes / 60) ++ ':' :: padded 2 (minutes % 60)
  date.print ++ 'T' :: clock ++ part ++ zone

/-- The text of any moment: date, time and offset, the latter two with their seconds. -/
def longText (t : Timestamp) : List Char :=
  let (days, nanos) := t.shown
  let date := Date.ofDays days
  let seconds := nanos / Interval.second
  let yearSign := if 0 ≤ date.year ∧ date.year < 10000 then [] else [sign date.year]
  let part := if nanos % Interval.second = 0 then ['0'] else fraction (nanos % Interval.second)
  let offset := t.offset.natAbs
  yearSign ++ date.print ++ ' ' :: Text.decimal (seconds / 3600) ++
    ':' :: padded 2 (seconds / 60 % 60) ++ ':' :: padded 2 (seconds % 60) ++ '.' :: part ++
    ' ' :: sign t.offset :: padded 2 (offset / 3600) ++ ':' :: padded 2 (offset / 60 % 60) ++
    ':' :: padded 2 (offset % 60)

def text (t : Timestamp) : String :=
  String.ofList (if t.isPlain then t.plainText else t.longText)

/-- The text of the day that the clock shows. -/
def dayText (t : Timestamp) : String :=
  String.ofList (Date.ofDays t.shown.1).print

end Timestamp

end MeshTelemetry
