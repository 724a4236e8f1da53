import MeshTelemetry.Deflate.Stored

/-!
# Streams of stored blocks

Bytes can be cut in any way into blocks that hold them as they are. `inflate_storedStream` says that
every such stream stands for the bytes in its blocks; a block may be empty. The stream `store` is one of
them (`exists_storedStream_store`).
-/

namespace MeshTelemetry.Deflate

/-- Blocks that hold bytes as they are, the last one apart. -/
def storedStream : List (List UInt8) → List UInt8 → List UInt8
  | [], last => storedBlock true last
  | block :: more, last => storedBlock false block ++ storedStream more last

/-- No block holds more than it can. -/
def FitStored (blocks : List (List UInt8)) (last : List UInt8) : Prop :=
  ∀ block ∈ last :: blocks, block.length ≤ storedLimit

/-! ## One block -/

/-- The number that two bytes spell, the low one first. -/
theorem toNat_twoBytes {n : Nat} (small : n ≤ 65535) :
    (UInt8.ofNat (n % 256)).toNat + 256 * (UInt8.ofNat (n / 256)).toNat = n := by
  simp only [UInt8.toNat_ofNat']
  omega

/-- A reader that succeeds hands its answer and the unread input on. -/
theorem BitReader.bind_of_ok {α β : Type} {r : BitReader α} {f : α → BitReader β}
    {input rest : Bits} {x : α} (run : r input = .ok (x, rest)) : (r >>= f) input = f x rest := by
  change (r input >>= fun p => f p.1 p.2) = _
  rw [run]
  rfl

/-- Behind its header a stored block gives its bytes, whatever bits are left of the header. -/
theorem readStored_twoBytes (pending : List Bool) {block : List UInt8}
    (fits : block.length ≤ storedLimit) (rest : List UInt8) :
    readStored ⟨pending, twoBytes block.length ++ twoBytes (65535 - block.length) ++ block ++ rest⟩ =
      .ok (block, .ofBytes rest) := by
  have length := toNat_twoBytes (show block.length ≤ 65535 from fits)
  have complement := toNat_twoBytes (Nat.sub_le 65535 block.length)
  have sum : block.length + (65535 - block.length) = 65535 := Nat.add_sub_cancel' fits
  have aligned : BitReader.align
      ⟨pending, twoBytes block.length ++ twoBytes (65535 - block.length) ++ block ++ rest⟩ =
        .ok ((), ⟨[], twoBytes block.length ++ twoBytes (65535 - block.length) ++ block ++ rest⟩) :=
    rfl
  have header : BitReader.bytes 4
      ⟨[], twoBytes block.length ++ twoBytes (65535 - block.length) ++ block ++ rest⟩ =
        .ok (twoBytes block.length ++ twoBytes (65535 - block.length), ⟨[], block ++ rest⟩) := rfl
  have body : BitReader.bytes block.length ⟨[], block ++ rest⟩ = .ok (block, .ofBytes rest) := by
    simp [BitReader.bytes, Bits.ofBytes]
  unfold readStored
  rw [BitReader.bind_of_ok aligned, BitReader.bind_of_ok header]
  simp only [twoBytes, List.cons_append, List.nil_append, length, complement, sum, if_true]
  exact body

theorem readFramed_storedBlock (isLast : Bool) (out : Output) {block : List UInt8}
    (fits : block.length ≤ storedLimit) (rest : List UInt8) :
    readFramed out (.ofBytes (storedBlock isLast block ++ rest)) =
      .ok ((isLast, out ++ block), .ofBytes rest) := by
  let tail := twoBytes block.length ++ twoBytes (65535 - block.length) ++ block ++ rest
  -- The first byte holds a bit that is set if the block is the last, and two bits for its kind.
  have flag : BitReader.bit (.ofBytes (storedBlock isLast block ++ rest)) =
      .ok (isLast, ⟨List.replicate 7 false, tail⟩) := by
    cases isLast <;> rfl
  have kind : BitReader.number 2 ⟨List.replicate 7 false, tail⟩ =
      .ok (0, ⟨List.replicate 5 false, tail⟩) := rfl
  have contents : readBlock 0 out ⟨List.replicate 5 false, tail⟩ =
      .ok (out ++ block, .ofBytes rest) :=
    BitReader.bind_of_ok (readStored_twoBytes _ fits rest)
  unfold readFramed
  rw [BitReader.bind_of_ok flag, BitReader.bind_of_ok kind, BitReader.bind_of_ok contents]
  rfl

/-! ## All blocks -/

theorem readBlocks_of_last {out next : Output} {input rest : Bits}
    (block : readFramed out input = .ok ((true, next), rest)) :
    readBlocks out input = .ok (next, rest) := by
  rw [readBlocks]
  split
  · rename_i failed
    cases failed.symm.trans block
  · rename_i read
    cases read.symm.trans block
    rfl
  · rename_i read
    cases read.symm.trans block

theorem readBlocks_of_more {out next : Output} {input rest : Bits}
    (block : readFramed out input = .ok ((false, next), rest)) :
    readBlocks out input = readBlocks next rest := by
  rw [readBlocks]
  split
  · rename_i failed
    cases failed.symm.trans block
  · rename_i read
    cases read.symm.trans block
  · rename_i read
    cases read.symm.trans block
    rfl

/-- Block by block, the bytes are appended to the output. -/
theorem readBlocks_storedStream (out : Output) {blocks : List (List UInt8)} {last : List UInt8}
    (fits : FitStored blocks last) :
    readBlocks out (.ofBytes (storedStream blocks last)) =
      .ok (out ++ (blocks.flatten ++ last), .ofBytes []) := by
  induction blocks generalizing out with
  | nil =>
    have block := readFramed_storedBlock true out (fits last (by simp)) []
    rw [List.append_nil] at block
    exact readBlocks_of_last block
  | cons block blocks ih =>
    have first := readFramed_storedBlock false out (fits block (by simp)) (storedStream blocks last)
    have more := ih (out ++ block) fun other mem => by
      refine fits other ?_
      rcases List.mem_cons.mp mem with rfl | mem
      · exact List.mem_cons_self ..
      · exact List.mem_cons_of_mem _ (List.mem_cons_of_mem _ mem)
    have joined : out ++ block ++ (blocks.flatten ++ last) =
        out ++ ((block :: blocks).flatten ++ last) := by
      apply Array.ext'
      simp
    rw [storedStream, readBlocks_of_more first, more, joined]

/-- A stream of stored blocks stands for the bytes in them. -/
theorem inflate_storedStream {blocks : List (List UInt8)} {last : List UInt8}
    (fits : FitStored blocks last) :
    inflate (storedStream blocks last) = .ok (blocks.flatten ++ last) := by
  unfold inflate
  rw [readBlocks_storedStream #[] fits]
  simp [Except.map]

/-- The plainest stream is one of full blocks and a last one. -/
theorem exists_storedStream_store (bytes : List UInt8) :
    ∃ blocks last, FitStored blocks last ∧ blocks.flatten ++ last = bytes ∧
      store bytes = storedStream blocks last := by
  fun_induction store bytes with
  | case1 bytes short =>
    refine ⟨[], bytes, ?_, rfl, rfl⟩
    intro block mem
    rw [List.mem_singleton.mp mem]
    exact short
  | case2 bytes long ih =>
    rcases ih with ⟨blocks, last, fits, whole, stream⟩
    refine ⟨bytes.take storedLimit :: blocks, last, ?_, ?_, ?_⟩
    · intro block mem
      rcases List.mem_cons.mp mem with rfl | mem
      · exact fits _ (List.mem_cons_self ..)
      · rcases List.mem_cons.mp mem with rfl | mem
        · exact List.length_take_le ..
        · exact fits block (List.mem_cons_of_mem _ mem)
    · rw [List.flatten_cons, List.append_assoc, whole, List.take_append_drop]
    · rw [stream]
      rfl

end MeshTelemetry.Deflate
