import MeshTelemetry.Text.Natural

/-!
Lengths of time and their texts: a number in the largest unit that does not exceed them, with a
fraction as far as it goes.
-/

namespace MeshTelemetry

/-- A length of time in nanoseconds. -/
structure Interval where
  nanos : Nat
deriving Repr, DecidableEq

namespace Interval

/-- The nanoseconds of a second. -/
def second : Nat := 1000000000

/-- The nanoseconds of a millisecond. -/
def millisecond : Nat := 1000000

/-- Whole seconds. -/
def ofSeconds (n : Nat) : Interval :=
  ⟨n * second⟩

/-- Whole milliseconds. -/
def ofMillis (n : Nat) : Interval :=
  ⟨n * millisecond⟩

/-- A number of nanoseconds in a unit that is a power of ten with `digits` zeros. -/
def inUnit (nanos digits : Nat) (unit : List Char) : List Char :=
  let size := Nat.pow 10 digits
  let rest := Text.decimal (nanos % size)
  let fraction := ((List.replicate (digits - rest.length) '0' ++ rest).reverse.dropWhile
    (· = '0')).reverse
  let point := if nanos % size = 0 then [] else '.' :: fraction
  Text.decimal (nanos / size) ++ point ++ unit

def text (i : Interval) : String :=
  String.ofList <|
    if second ≤ i.nanos then inUnit i.nanos 9 ['s']
    else if millisecond ≤ i.nanos then inUnit i.nanos 6 ['m', 's']
    else if 1000 ≤ i.nanos then inUnit i.nanos 3 ['µ', 's']
    else inUnit i.nanos 0 ['n', 's']

end Interval

end MeshTelemetry
