import MeshTelemetry.Deflate.Huffman

/-!
Decompression of a raw deflate stream: a sequence of blocks, the last of which says so. A block
holds its bytes as they are, or as literals and copies of earlier output under a fixed or a
transmitted pair of prefix codes. Nothing behind the last block is looked at.
-/

namespace MeshTelemetry.Deflate

/-- The bytes produced so far. -/
abbrev Output := Array UInt8

/-- What one word of a compressed block says. -/
inductive Token
  | endOfBlock
  | literal (byte : UInt8)
  | copy (length distance : Nat)
deriving Repr

/-! ## Copies -/

/-- The least length and the number of extra bits of each length symbol, from 257 up. -/
def lengthClasses : List (Nat × Nat) :=
  [(3, 0), (4, 0), (5, 0), (6, 0), (7, 0), (8, 0), (9, 0), (10, 0), (11, 1), (13, 1), (15, 1),
   (17, 1), (19, 2), (23, 2), (27, 2), (31, 2), (35, 3), (43, 3), (51, 3), (59, 3), (67, 4),
   (83, 4), (99, 4), (115, 4), (131, 5), (163, 5), (195, 5), (227, 5), (258, 0)]

/-- The least distance and the number of extra bits of each distance symbol. -/
def distanceClasses : List (Nat × Nat) :=
  [(1, 0), (2, 0), (3, 0), (4, 0), (5, 1), (7, 1), (9, 2), (13, 2), (17, 3), (25, 3), (33, 4),
   (49, 4), (65, 5), (97, 5), (129, 6), (193, 6), (257, 7), (385, 7), (513, 8), (769, 8),
   (1025, 9), (1537, 9), (2049, 10), (3073, 10), (4097, 11), (6145, 11), (8193, 12), (12289, 12),
   (16385, 13), (24577, 13)]

/-- The value of a symbol with its extra bits; a symbol without a class is corrupt. -/
def classValue (classes : List (Nat × Nat)) (symbol : Nat) : BitReader Nat :=
  match classes[symbol]? with
  | none => BitReader.corrupt
  | some (least, extra) => do
    let more ← BitReader.number extra
    return least + more

def Token.read (literals distances : Code) : BitReader Token := do
  let symbol ← literals.read
  if symbol < 256 then return .literal (UInt8.ofNat symbol)
  else if symbol = 256 then return .endOfBlock
  else
    let length ← classValue lengthClasses (symbol - 257)
    let distance ← classValue distanceClasses (← distances.read)
    return .copy length distance

/-- Append `length` bytes, each taken from `distance` bytes before the end. -/
def Output.copyBack (out : Output) (distance : Nat) : Nat → Output
  | 0 => out
  | length + 1 => Output.copyBack (out.push (out[out.size - distance]?.getD 0)) distance length

/-! ## Progress -/

theorem takes_classValue (classes : List (Nat × Nat)) (symbol : Nat) :
    BitReader.Takes 0 (classValue classes symbol) := by
  unfold classValue
  split
  · exact BitReader.takes_corrupt 0
  · exact ((BitReader.takes_number _).followed fun _ => BitReader.takes_pure _).any

theorem Token.takes_read (literals distances : Code) :
    BitReader.Takes 1 (Token.read literals distances) := by
  refine literals.takes_read.followed fun symbol => ?_
  split
  · exact BitReader.takes_pure _
  · split
    · exact BitReader.takes_pure _
    · exact (takes_classValue _ _).followed fun _ =>
        (distances.takes_read.followed fun _ =>
          (takes_classValue _ _).followed fun _ => BitReader.takes_pure _).any

/-! ## Compressed blocks -/

/-- The tokens of a block, up to the one that ends it. A copy must not reach back behind the first
byte of output. -/
def readTokens (literals distances : Code) (out : Output) (input : Bits) :
    Except Fault (Output × Bits) :=
  match step : Token.read literals distances input with
  | .error fault => .error fault
  | .ok (.endOfBlock, rest) => .ok (out, rest)
  | .ok (.literal byte, rest) =>
    have := Token.takes_read literals distances _ _ _ step
    readTokens literals distances (out.push byte) rest
  | .ok (.copy length distance, rest) =>
    have := Token.takes_read literals distances _ _ _ step
    if distance ≤ out.size then
      readTokens literals distances (out.copyBack distance length) rest
    else .error .corrupt
termination_by input.remaining

theorem takes_readTokens (literals distances : Code) (out : Output) :
    BitReader.Takes 0 (readTokens literals distances out) := by
  intro input x rest run
  fun_induction readTokens literals distances out input with
  | case1 => cases run
  | case2 out input left step =>
    cases run
    have := Token.takes_read literals distances _ _ _ step
    omega
  | case3 out input byte left step taken ih =>
    have := ih run
    omega
  | case4 out input length distance left step taken fits ih =>
    have := ih run
    omega
  | case5 => cases run

/-- The fixed code for literals and lengths. -/
def fixedLiterals : Code :=
  .ofLengths (List.replicate 144 8 ++ List.replicate 112 9 ++ List.replicate 24 7 ++
    List.replicate 8 8)

/-- The fixed code for distances. -/
def fixedDistances : Code :=
  .ofLengths (List.replicate 32 5)

/-! ## Transmitted codes -/

/-- The order in which the word lengths of the code for word lengths are sent. -/
def lengthOrder : List Nat :=
  [16, 17, 18, 0, 8, 7, 9, 6, 10, 5, 11, 4, 12, 3, 13, 2, 14, 1, 15]

/-- `count` numbers of `width` bits. -/
def readNumbers (width : Nat) : Nat → BitReader (List Nat)
  | 0 => pure []
  | count + 1 => do
    let first ← BitReader.number width
    let rest ← readNumbers width count
    return first :: rest

theorem takes_readNumbers (width count : Nat) : BitReader.Takes 0 (readNumbers width count) := by
  induction count with
  | zero => exact BitReader.takes_pure _
  | succ n ih =>
    exact ((BitReader.takes_number width).followed fun _ =>
      ih.followed fun _ => BitReader.takes_pure _).any

/-- How often which word length is sent next: a length itself, the previous one repeated, or a run
of zeros. -/
def readRun (code : Code) (previous : Option Nat) : BitReader (Nat × Nat) := do
  let symbol ← code.read
  if symbol < 16 then return (1, symbol)
  else if symbol = 16 then
    match previous with
    | none => BitReader.corrupt
    | some length => return (3 + (← BitReader.number 2), length)
  else if symbol = 17 then return (3 + (← BitReader.number 3), 0)
  else return (11 + (← BitReader.number 7), 0)

theorem takes_readRun (code : Code) (previous : Option Nat) :
    BitReader.Takes 1 (readRun code previous) := by
  refine code.takes_read.followed fun symbol => ?_
  split
  · exact BitReader.takes_pure _
  · split
    · split
      · exact BitReader.takes_corrupt 0
      · exact ((BitReader.takes_number 2).followed fun _ => BitReader.takes_pure _).any
    · split
      · exact ((BitReader.takes_number 3).followed fun _ => BitReader.takes_pure _).any
      · exact ((BitReader.takes_number 7).followed fun _ => BitReader.takes_pure _).any

/-- Word lengths until `total` of them are there, the latest first. A run must not lead beyond the
total. -/
def readLengths (code : Code) (total : Nat) (latest : List Nat) (input : Bits) :
    Except Fault (List Nat × Bits) :=
  if latest.length = total then .ok (latest.reverse, input)
  else if total < latest.length then .error .corrupt
  else
    match step : readRun code latest.head? input with
    | .error fault => .error fault
    | .ok ((count, length), rest) =>
      have := takes_readRun code _ _ _ _ step
      readLengths code total (List.replicate count length ++ latest) rest
termination_by input.remaining

theorem takes_readLengths (code : Code) (total : Nat) (latest : List Nat) :
    BitReader.Takes 0 (readLengths code total latest) := by
  intro input x rest run
  fun_induction readLengths code total latest input with
  | case1 => cases run; exact Nat.le_refl _
  | case2 => cases run
  | case3 => cases run
  | case4 latest input unfinished fits count length left step taken ih =>
    have := ih run
    omega

/-- The two codes that a block brings along. -/
def readCodes : BitReader (Code × Code) := do
  let literalCount := 257 + (← BitReader.number 5)
  let distanceCount := 1 + (← BitReader.number 5)
  let sentCount := 4 + (← BitReader.number 4)
  if 286 < literalCount || 30 < distanceCount then BitReader.corrupt
  else
    let sent ← readNumbers 3 sentCount
    let lengthOf := fun symbol => ((lengthOrder.zip sent).lookup symbol).getD 0
    let metaLengths := (List.range 19).map lengthOf
    if isComplete metaLengths then
      let lengths ← readLengths (.ofLengths metaLengths) (literalCount + distanceCount) []
      let literals := lengths.take literalCount
      let distances := lengths.drop literalCount
      if isUsable literals && isUsable distances then
        return (.ofLengths literals, .ofLengths distances)
      else BitReader.corrupt
    else BitReader.corrupt

theorem takes_readCodes : BitReader.Takes 0 readCodes := by
  refine ((BitReader.takes_number 5).followed fun _ =>
    ((BitReader.takes_number 5).followed fun _ =>
      ((BitReader.takes_number 4).followed fun _ => ?_).any).any).any
  split
  · exact BitReader.takes_corrupt 0
  · refine (takes_readNumbers _ _).followed fun sent => ?_
    dsimp only
    split
    · refine (takes_readLengths _ _ _).followed fun lengths => ?_
      split
      · exact BitReader.takes_pure _
      · exact BitReader.takes_corrupt 0
    · exact BitReader.takes_corrupt 0

/-! ## Blocks -/

/-- The bytes of a block that holds them as they are, behind their number and its complement. -/
def readStored : BitReader (List UInt8) := do
  BitReader.align
  match ← BitReader.bytes 4 with
  | [a, b, c, d] =>
    let count := a.toNat + 256 * b.toNat
    if count + (c.toNat + 256 * d.toNat) = 65535 then BitReader.bytes count
    else BitReader.corrupt
  | _ => BitReader.corrupt

/-- The contents of a block whose two header bits of type have been read. -/
def readBlock (kind : Nat) (out : Output) : BitReader Output :=
  match kind with
  | 0 => do return out ++ (← readStored)
  | 1 => readTokens fixedLiterals fixedDistances out
  | 2 => do
    let (literals, distances) ← readCodes
    readTokens literals distances out
  | _ => BitReader.corrupt

theorem takes_readStored : BitReader.Takes 0 readStored := by
  refine BitReader.takes_align.followed fun _ =>
    (BitReader.takes_bytes 4).followed fun header => ?_
  split
  · dsimp only
    split
    · exact BitReader.takes_bytes _
    · exact BitReader.takes_corrupt 0
  · exact BitReader.takes_corrupt 0

theorem takes_readBlock (kind : Nat) (out : Output) : BitReader.Takes 0 (readBlock kind out) := by
  unfold readBlock
  split
  · exact takes_readStored.followed fun _ => BitReader.takes_pure _
  · exact takes_readTokens _ _ _
  · exact takes_readCodes.followed fun _ => takes_readTokens _ _ _
  · exact BitReader.takes_corrupt 0

/-- One block: whether it is the last one, and the output with its contents appended. -/
def readFramed (out : Output) : BitReader (Bool × Output) := do
  let isLast ← BitReader.bit
  let kind ← BitReader.number 2
  return (isLast, ← readBlock kind out)

theorem takes_readFramed (out : Output) : BitReader.Takes 1 (readFramed out) :=
  BitReader.takes_bit.followed fun _ =>
    ((BitReader.takes_number 2).followed fun kind =>
      (takes_readBlock kind out).followed fun _ => BitReader.takes_pure _).any

/-- The blocks of a stream, up to the last one. -/
def readBlocks (out : Output) (input : Bits) : Except Fault (Output × Bits) :=
  match step : readFramed out input with
  | .error fault => .error fault
  | .ok ((true, out), rest) => .ok (out, rest)
  | .ok ((false, next), rest) =>
    have := takes_readFramed out _ _ _ step
    readBlocks next rest
termination_by input.remaining

/-- The bytes that a raw deflate stream stands for. -/
def inflate (bytes : List UInt8) : Except Fault (List UInt8) :=
  (readBlocks #[] (.ofBytes bytes)).map fun p => p.1.toList

end MeshTelemetry.Deflate
