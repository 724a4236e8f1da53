/-!
Natural numbers in decimal digits.

The lenient reading of a whole text allows a plus sign and leading zeros. Of several faults the one
furthest to the left is reported, and at one place a character that is no digit before a number
that grows too large.
-/

namespace MeshTelemetry.Text

/-- Why a text is no number of the wanted size. -/
inductive NumberFault
  | empty
  | invalidDigit
  | tooLarge
deriving Repr, DecidableEq

def NumberFault.message : NumberFault → String
  | .empty => "cannot parse integer from empty string"
  | .invalidDigit => "invalid digit found in string"
  | .tooLarge => "number too large to fit in target type"

/-- The value of decimal digits behind the digits of `value`. -/
def digitsValue (value : Nat) (digits : List Char) : Nat :=
  digits.foldl (fun n c => 10 * n + (c.toNat - 48)) value

/-- Read digits behind the digits of `value`, up to a limit. -/
def readDigits (limit value : Nat) : List Char → Except NumberFault Nat
  | [] => .ok value
  | c :: rest =>
    if c.isDigit then
      if 10 * value + (c.toNat - 48) ≤ limit then
        readDigits limit (10 * value + (c.toNat - 48)) rest
      else .error .tooLarge
    else .error .invalidDigit

/-- The number that a whole text names, if it does not exceed the limit. -/
def readNatural (limit : Nat) (text : List Char) : Except NumberFault Nat :=
  match text with
  | [] => .error .empty
  | [c] => if c.isDigit then readDigits limit 0 [c] else .error .invalidDigit
  | '+' :: rest => readDigits limit 0 rest
  | rest => readDigits limit 0 rest

/-- The decimal text of a number. -/
def decimal (n : Nat) : List Char :=
  Nat.toDigits 10 n

end MeshTelemetry.Text
