/-!
Reading a byte string bit by bit, the low bit of each byte first.

A `BitReader` either answers with what it read and the input it left, or fails. Two facts about
readers matter elsewhere: how many bits a reader takes at least (`BitReader.Takes`), by which the
loops over a compressed stream end, and which of the two failures it reports.
-/

namespace MeshTelemetry.Deflate

/-- Why a compressed stream cannot be read. -/
inductive Fault
  /-- The stream breaks a rule of the format. -/
  | corrupt
  /-- The input ends before the stream does. -/
  | incomplete
deriving Repr, DecidableEq

def Fault.message : Fault → String
  | .corrupt => "corrupt deflate stream"
  | .incomplete => "incomplete deflate stream"

/-- Unread input: the bits left of the byte being read, then whole bytes. -/
structure Bits where
  pending : List Bool
  bytes : List UInt8
deriving Repr, DecidableEq

/-- The number of unread bits. -/
def Bits.remaining (b : Bits) : Nat :=
  b.pending.length + 8 * b.bytes.length

/-- Input of which nothing has been read. -/
def Bits.ofBytes (bytes : List UInt8) : Bits :=
  ⟨[], bytes⟩

/-- The bits of a byte, the low one first. -/
def bitsOfByte (b : UInt8) : List Bool :=
  [b.toNat.testBit 0, b.toNat.testBit 1, b.toNat.testBit 2, b.toNat.testBit 3,
   b.toNat.testBit 4, b.toNat.testBit 5, b.toNat.testBit 6, b.toNat.testBit 7]

/-- A step that reads from the input. -/
abbrev BitReader (α : Type) :=
  StateT Bits (Except Fault) α

namespace BitReader

/-- The next bit. -/
def bit : BitReader Bool := fun input =>
  match input.pending, input.bytes with
  | b :: rest, bytes => .ok (b, ⟨rest, bytes⟩)
  | [], byte :: bytes =>
    .ok (byte.toNat.testBit 0, ⟨(bitsOfByte byte).drop 1, bytes⟩)
  | [], [] => .error .incomplete

/-- A number of `count` bits, the low one first. -/
def number : Nat → BitReader Nat
  | 0 => pure 0
  | count + 1 => do
    let low ← bit
    let high ← number count
    return low.toNat + 2 * high

/-- Give up on a stream that breaks the format. -/
def corrupt {α : Type} : BitReader α := fun _ =>
  .error .corrupt

/-- Skip to the next byte boundary. -/
def align : BitReader Unit := fun input =>
  .ok ((), ⟨[], input.bytes⟩)

/-- `count` whole bytes; the input must stand at a byte boundary. -/
def bytes (count : Nat) : BitReader (List UInt8) := fun input =>
  let taken := input.bytes.take count
  if taken.length = count then .ok (taken, ⟨input.pending, input.bytes.drop count⟩)
  else .error .incomplete

/-! ## Progress -/

/-- Whenever the reader succeeds it has taken at least `count` bits. -/
def Takes {α : Type} (count : Nat) (r : BitReader α) : Prop :=
  ∀ input x rest, r input = .ok (x, rest) → rest.remaining + count ≤ input.remaining

theorem Takes.mono {α : Type} {m n : Nat} {r : BitReader α} (h : Takes n r) (le : m ≤ n) :
    Takes m r := fun input x rest run =>
  Nat.le_trans (Nat.add_le_add_left le _) (h input x rest run)

theorem takes_pure {α : Type} (x : α) : Takes 0 (pure x : BitReader α) := by
  intro input y rest run
  cases run
  exact Nat.le_refl _

theorem takes_corrupt {α : Type} (count : Nat) : Takes count (corrupt : BitReader α) := by
  intro input y rest run
  cases run

theorem Takes.bind {α β : Type} {m n : Nat} {r : BitReader α} {f : α → BitReader β}
    (hr : Takes m r) (hf : ∀ x, Takes n (f x)) : Takes (m + n) (r >>= f) := by
  intro input y rest run
  change (r input >>= fun p => f p.1 p.2) = _ at run
  cases first : r input with
  | error fault => rw [first] at run; cases run
  | ok p =>
    rw [first] at run
    have h₁ := hr input p.1 p.2 first
    have h₂ := hf p.1 p.2 y rest run
    omega

/-- What follows a reader may take nothing. -/
theorem Takes.followed {α β : Type} {m : Nat} {r : BitReader α} {f : α → BitReader β}
    (hr : Takes m r) (hf : ∀ x, Takes 0 (f x)) : Takes m (r >>= f) :=
  hr.bind hf

theorem Takes.any {α : Type} {m : Nat} {r : BitReader α} (h : Takes m r) : Takes 0 r :=
  h.mono (Nat.zero_le _)

theorem takes_bit : Takes 1 bit := by
  intro input x rest run
  unfold bit at run
  split at run
  · rename_i pending
    cases run
    simp only [Bits.remaining, pending, List.length_cons]
    omega
  · rename_i pending bytes
    cases run
    simp only [Bits.remaining, bitsOfByte, pending, bytes, List.drop_succ_cons, List.drop_zero,
      List.length_cons, List.length_nil]
    omega
  · cases run

theorem takes_number (count : Nat) : Takes count (number count) := by
  induction count with
  | zero => exact takes_pure 0
  | succ n ih =>
    exact (takes_bit.bind fun _ => ih.followed fun _ => takes_pure _).mono (by omega)

theorem takes_align : Takes 0 align := by
  intro input x rest run
  cases run
  simp [Bits.remaining]

theorem takes_bytes (count : Nat) : Takes 0 (bytes count) := by
  intro input x rest run
  unfold bytes at run
  simp only at run
  split at run
  · cases run
    simp only [Bits.remaining, List.length_drop]
    omega
  · cases run

end BitReader

end MeshTelemetry.Deflate
