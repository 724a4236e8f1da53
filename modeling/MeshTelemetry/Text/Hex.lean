/-!
Bytes written as pairs of lower-case hexadecimal digits.

`decode?_encode` says that reading a written text gives the bytes back.
-/

namespace MeshTelemetry.Text.Hex

/-- The digit of a value below sixteen. -/
def digit (n : Nat) : Char :=
  if n < 10 then Char.ofNat (48 + n) else Char.ofNat (87 + n)

/-- The value of a hexadecimal digit in either case. -/
def value? (c : Char) : Option Nat :=
  if '0' ≤ c ∧ c ≤ '9' then some (c.toNat - 48)
  else if 'a' ≤ c ∧ c ≤ 'f' then some (c.toNat - 87)
  else if 'A' ≤ c ∧ c ≤ 'F' then some (c.toNat - 55)
  else none

/-- Two digits for each byte, the high half first. -/
def encode (bytes : List UInt8) : List Char :=
  bytes.flatMap fun b => [digit (b.toNat / 16), digit (b.toNat % 16)]

/-- The bytes of a text that consists of pairs of digits. -/
def decode? : List Char → Option (List UInt8)
  | [] => some []
  | [_] => none
  | high :: low :: rest => do
    let h ← value? high
    let l ← value? low
    let bytes ← decode? rest
    return UInt8.ofNat (16 * h + l) :: bytes

/-- The shortest hexadecimal text of a number. -/
def ofNat (n : Nat) : List Char :=
  Nat.toDigits 16 n

theorem value?_digit : ∀ n < 16, value? (digit n) = some n := by
  decide

/-- Reading the written text of some bytes gives those bytes. -/
theorem decode?_encode (bytes : List UInt8) : decode? (encode bytes) = some bytes := by
  induction bytes with
  | nil => rfl
  | cons b rest ih =>
    have hb : b.toNat < 256 := b.toNat_lt
    have split : 16 * (b.toNat / 16) + b.toNat % 16 = b.toNat := by omega
    simp only [encode, List.flatMap_cons, List.cons_append, List.nil_append, decode?,
      value?_digit _ (show b.toNat / 16 < 16 by omega),
      value?_digit _ (show b.toNat % 16 < 16 by omega)]
    change (do let bytes ← decode? (encode rest); pure (_ :: bytes)) = _
    rw [ih, split]
    simp

end MeshTelemetry.Text.Hex
