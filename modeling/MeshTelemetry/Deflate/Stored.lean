import MeshTelemetry.Deflate.Inflate

/-!
The plainest raw deflate stream for some bytes: blocks that hold them as they are.
-/

namespace MeshTelemetry.Deflate

/-- The most bytes that one block can hold as they are. -/
def storedLimit : Nat := 65535

/-- A number below 2^16 as two bytes, the low one first. -/
def twoBytes (n : Nat) : List UInt8 :=
  [UInt8.ofNat (n % 256), UInt8.ofNat (n / 256)]

/-- A block that holds at most `storedLimit` bytes as they are. -/
def storedBlock (isLast : Bool) (bytes : List UInt8) : List UInt8 :=
  (if isLast then 1 else 0) :: twoBytes bytes.length ++ twoBytes (65535 - bytes.length) ++ bytes

/-- A stream of full blocks and one last block, which may hold less. -/
def store (bytes : List UInt8) : List UInt8 :=
  if bytes.length ≤ storedLimit then storedBlock true bytes
  else storedBlock false (bytes.take storedLimit) ++ store (bytes.drop storedLimit)
termination_by bytes.length
decreasing_by
  simp only [storedLimit, List.length_drop] at *
  omega

end MeshTelemetry.Deflate
