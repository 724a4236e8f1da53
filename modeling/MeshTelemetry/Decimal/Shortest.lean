import MeshTelemetry.Decimal.Binary

/-!
The fewest decimal digits that still name a given double.

A double is nearest to every real of an interval around it. For one digit, two digits and so on,
the two points of that decimal grid next to the double are tried; the first grid with a point
inside the interval wins, and of two such points the nearer. When both are equally near, a `Tie`
decides.
-/

namespace MeshTelemetry.Decimal

/-- Which of two equally near decimal neighbours is taken. -/
inductive Tie
  | toEven
  | upward
deriving Repr, DecidableEq

/-- The number `digits * 10 ^ scale`. -/
structure Digits where
  digits : Nat
  scale : Int
deriving Repr, DecidableEq

/-- Drop trailing zeros, which changes the scale and not the number. -/
def Digits.trim (d : Digits) : Digits :=
  if h : d.digits ≠ 0 ∧ d.digits % 10 = 0 then
    Digits.trim ⟨d.digits / 10, d.scale + 1⟩
  else d
termination_by d.digits
decreasing_by omega

/-- The number of decimal digits of a positive number. -/
def digitCount (n : Nat) : Nat :=
  (Nat.toDigits 10 n).length

/-- The exponent of the first decimal digit of `num / den`, both positive. -/
def leadingExponent (num den : Nat) : Int :=
  if den ≤ num then (digitCount (num / den) : Int) - 1
  else -(digitCount ((den - 1) / num) : Int)

/-- An interval of positive rationals over one denominator, around the value to be written. -/
structure Span where
  low : Nat
  value : Nat
  high : Nat
  den : Nat
  /-- The ends belong to the interval. -/
  closed : Bool

/-- The reals that are nearest to `mantissa * 2 ^ exponent` among the doubles. -/
def Span.ofFinite (mantissa : Nat) (exponent : Int) (evenGap : Bool) : Span :=
  let up := Nat.pow 2 (exponent - 2).toNat
  { low := (4 * mantissa - if evenGap then 2 else 1) * up
    value := 4 * mantissa * up
    high := (4 * mantissa + 2) * up
    den := Nat.pow 2 (2 - exponent).toNat
    closed := mantissa % 2 = 0 }

/-- The point `num / den` lies in the interval. -/
def Span.contains (s : Span) (num den : Nat) : Bool :=
  if s.closed then s.low * den ≤ num * s.den && num * s.den ≤ s.high * den
  else s.low * den < num * s.den && num * s.den < s.high * den

/-- The multiple of `10 ^ scale` that names the value, if one next to it does. -/
def Span.onGrid? (s : Span) (tie : Tie) (scale : Int) : Option Nat :=
  let up := Nat.pow 10 scale.toNat
  let down := Nat.pow 10 (-scale).toNat
  let unit := s.den * up
  let below := s.value * down / unit
  let excess := s.value * down % unit
  let takesBelow := s.contains (below * up) down && below ≠ 0
  let takesAbove := s.contains ((below + 1) * up) down
  match takesBelow, takesAbove with
  | false, false => none
  | true, false => some below
  | false, true => some (below + 1)
  | true, true =>
    if 2 * excess < unit then some below
    else if unit < 2 * excess then some (below + 1)
    else match tie with
      | .toEven => some (if below % 2 = 0 then below else below + 1)
      | .upward => some (below + 1)

/-- Try ever finer grids, the coarsest first; `steps` more of them are left. -/
def Span.search (s : Span) (tie : Tie) (scale : Int) : Nat → Digits
  | 0 => ⟨s.value * Nat.pow 10 (-scale).toNat / (s.den * Nat.pow 10 scale.toNat), scale⟩
  | steps + 1 =>
    match s.onGrid? tie scale with
    | some n => ⟨n, scale⟩
    | none => s.search tie (scale - 1) steps

/-- The shortest decimal that reads back as `mantissa * 2 ^ exponent`, the nearest such. Seventeen
digits always suffice. -/
def shortest (tie : Tie) (mantissa : Nat) (exponent : Int) (evenGap : Bool) : Digits :=
  if mantissa = 0 then ⟨0, 0⟩
  else
    let s := Span.ofFinite mantissa exponent evenGap
    (s.search tie (leadingExponent s.value s.den) 17).trim

end MeshTelemetry.Decimal
