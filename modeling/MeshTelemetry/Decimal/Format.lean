import MeshTelemetry.Decimal.Shortest

/-!
Texts of floating-point numbers.

A `Format` holds the decisions of one output format: which numbers are written positionally,
how an exponent looks, how a tie between two shortest forms goes, and the names of the values that
are no numbers. The three formats of this program stand at the end.
-/

namespace MeshTelemetry.Decimal

/-- The decisions of a floating-point output format. -/
structure Format where
  /-- The decimal exponent of the first digit from which numbers are written positionally;
  `none` for all of them. -/
  positionalFrom : Option Int
  /-- The decimal exponent of the first digit up to which numbers are written positionally. -/
  positionalTo : Option Int
  /-- The mark in front of an exponent that is not negative. -/
  exponentMark : String
  tie : Tie
  nan : String
  infinity : String

/-- `count` zeros. -/
def zeros (count : Nat) : List Char :=
  List.replicate count '0'

/-- Digits and a decimal point: `digits * 10 ^ scale`, with at least one digit on either side. -/
def positional (d : Digits) : List Char :=
  let ds := Nat.toDigits 10 d.digits
  if 0 ≤ d.scale then ds ++ zeros d.scale.toNat ++ ['.', '0']
  else
    let places := (-d.scale).toNat
    let padded := zeros (places + 1 - ds.length) ++ ds
    padded.take (padded.length - places) ++ '.' :: padded.drop (padded.length - places)

/-- One digit before the point, the others behind it, and the exponent of the first. -/
def scientific (mark : String) (d : Digits) : List Char :=
  let ds := Nat.toDigits 10 d.digits
  let exponent := d.scale + (ds.length : Int) - 1
  let head := match ds with
    | first :: second :: rest => first :: '.' :: second :: rest
    | short => short
  head ++ (if exponent < 0 then ['e', '-'] else mark.toList) ++ Nat.toDigits 10 exponent.natAbs

/-- The text of the number `digits * 10 ^ scale`, whose digits end in no zero. -/
def Format.unsigned (f : Format) (d : Digits) : List Char :=
  let exponent := d.scale + (digitCount d.digits : Int) - 1
  let small := f.positionalFrom.any fun least => exponent < least
  let large := f.positionalTo.any fun most => most < exponent
  if d.digits ≠ 0 && (small || large) then scientific f.exponentMark d else positional d

def Format.text (f : Format) (x : Float) : String :=
  match Binary.ofFloat x with
  | .nan => f.nan
  | .infinite negative => if negative then "-" ++ f.infinity else f.infinity
  | .finite negative mantissa exponent evenGap =>
    let body := f.unsigned (shortest f.tie mantissa exponent evenGap)
    String.ofList (if negative then '-' :: body else body)

/-- Numbers in a JSON document: positional for decimal exponents from -5 to 15, otherwise with an
exponent that shows its sign. -/
def jsonFormat : Format :=
  { positionalFrom := some (-5), positionalTo := some 15, exponentMark := "e+", tie := .toEven
    nan := "null", infinity := "null" }

/-- Numbers in log fields: positional from 0.0001 up to ten quadrillions, otherwise with a bare
exponent. -/
def logFormat : Format :=
  { positionalFrom := some (-4), positionalTo := some 15, exponentMark := "e", tie := .upward
    nan := "NaN", infinity := "inf" }

/-- Numbers in complaints about a configuration file: always positional. -/
def plainFormat : Format :=
  { positionalFrom := none, positionalTo := none, exponentMark := "e", tie := .upward
    nan := "NaN", infinity := "inf" }

end MeshTelemetry.Decimal
