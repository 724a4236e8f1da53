import MeshTelemetry.Deflate.Bits

/-!
Prefix codes given by the lengths of their words.

Among words of one length the symbols are in ascending order, and shorter words come before longer
ones. Level by level from the longest words up, the subtrees at a depth are therefore the symbols
of that length followed by the pairs of the subtrees one level below.
-/

namespace MeshTelemetry.Deflate

/-- A subtree of a prefix code. `unassigned` stands where no word begins. -/
inductive CodeTree
  | unassigned
  | symbol (value : Nat)
  | branch (zero one : CodeTree)
deriving Repr

/-- A prefix code; every word has at least one bit. -/
structure Code where
  zero : CodeTree
  one : CodeTree
deriving Repr

/-- The longest word that the format knows. -/
def maxLength : Nat := 15

/-- Join subtrees two by two; a last one without a partner gets an unassigned one. -/
def pairUp : List CodeTree → List CodeTree
  | [] => []
  | [last] => [.branch last .unassigned]
  | zero :: one :: rest => .branch zero one :: pairUp rest

/-- The symbols whose words have `length` bits. -/
def symbolsOfLength (lengths : List Nat) (length : Nat) : List CodeTree :=
  (lengths.zipIdx.filter fun p => p.1 = length).map fun p => .symbol p.2

/-- The subtrees at the depth that lies `levels` above the longest words. -/
def subtrees (lengths : List Nat) : Nat → List CodeTree
  | 0 => symbolsOfLength lengths maxLength
  | levels + 1 =>
    symbolsOfLength lengths (maxLength - (levels + 1)) ++ pairUp (subtrees lengths levels)

/-- The code with the given word lengths; zero marks a symbol without a word. -/
def Code.ofLengths (lengths : List Nat) : Code :=
  match subtrees lengths (maxLength - 1) with
  | zero :: one :: _ => ⟨zero, one⟩
  | [zero] => ⟨zero, .unassigned⟩
  | [] => ⟨.unassigned, .unassigned⟩

/-- The share of all words of the greatest length that the code uses up. -/
def kraftSum (lengths : List Nat) : Nat :=
  lengths.foldl (fun used l => if l = 0 then used else used + Nat.pow 2 (maxLength - l)) 0

/-- The words leave no gap and do not overlap. -/
def isComplete (lengths : List Nat) : Bool :=
  kraftSum lengths = Nat.pow 2 maxLength

/-- The code is complete, or has no word, or one that is a single bit. -/
def isUsable (lengths : List Nat) : Bool :=
  isComplete lengths || lengths.all (· = 0) || lengths.filter (· ≠ 0) = [1]

def CodeTree.read : CodeTree → BitReader Nat
  | .unassigned => BitReader.corrupt
  | .symbol value => pure value
  | .branch zero one => do
    if ← BitReader.bit then one.read else zero.read

def Code.read (code : Code) : BitReader Nat := do
  if ← BitReader.bit then code.one.read else code.zero.read

theorem CodeTree.takes_read (t : CodeTree) : BitReader.Takes 0 t.read := by
  induction t with
  | unassigned => exact BitReader.takes_corrupt 0
  | symbol value => exact BitReader.takes_pure value
  | branch zero one ihz iho =>
    refine (BitReader.takes_bit.followed fun b => ?_).any
    cases b
    · exact ihz
    · exact iho

theorem Code.takes_read (code : Code) : BitReader.Takes 1 code.read := by
  refine BitReader.takes_bit.followed fun b => ?_
  cases b
  · exact code.zero.takes_read
  · exact code.one.takes_read

end MeshTelemetry.Deflate
