import Mathlib
import MeshTelemetry.Datagram
import MeshTelemetry.Proofs.Deflate.Stored

/-!
# Where a stream ends

A compressed stream delimits itself. What a reader answers is decided by the bytes that it takes: it
answers the same whatever stands behind them, and of fewer of them it says that the input is
incomplete (`BitReader.Delimits`). This holds of single bits and whole bytes and is kept when readers
follow one another (`SelfDelimitingAt.bind`), so it holds of words of a prefix code, of tokens, of
transmitted codes, of blocks of every kind and of whole streams.

`inflate_extent` says it of the bytes of a stream up to the one that its last block ends in, and
`decodePayload_extent` of payloads: no byte behind the stream matters, and no response is taken from a
stream that has been cut off, however much of a document its blocks hold by then.
-/

namespace MeshTelemetry

namespace Deflate

namespace BitReader

/-! ## Readers whose input delimits itself -/

/-- With the bits `pending` of a byte in front, a reader takes the bytes `taken` for its answer and leaves
the bits `left` of the last of them. -/
structure Delimits {α : Type} (r : BitReader α) (pending : List Bool) (taken : List UInt8) (x : α)
    (left : List Bool) : Prop where
  /-- Nothing behind the bytes matters. -/
  any : ∀ more, r ⟨pending, taken ++ more⟩ = .ok (x, ⟨left, more⟩)
  /-- All of the bytes are needed. -/
  cut : ∀ m < taken.length, r ⟨pending, taken.take m⟩ = .error .incomplete
  /-- The bits that are left belong to one byte. -/
  left_lt : pending.length < 8 → left.length < 8

/-- If the reader succeeds at an input, the bytes that it takes delimit themselves. -/
def SelfDelimitingAt {α : Type} (r : BitReader α) (input : Bits) : Prop :=
  ∀ x rest, r input = .ok (x, rest) →
    ∃ taken, input.bytes = taken ++ rest.bytes ∧ Delimits r input.pending taken x rest.pending

/-- Wherever the reader succeeds, the bytes that it takes delimit themselves. -/
def SelfDelimiting {α : Type} (r : BitReader α) : Prop :=
  ∀ input, SelfDelimitingAt r input

section

variable {α β : Type}

theorem bind_of_error {r : BitReader α} {f : α → BitReader β} {input : Bits} {fault : Fault}
    (run : r input = .error fault) : (r >>= f) input = .error fault := by
  change (r input >>= fun p => f p.1 p.2) = _
  rw [run]
  rfl

/-- A reader that takes no byte, whatever bits it takes. -/
theorem delimits_nil {r : BitReader α} {pending left : List Bool} {x : α}
    (run : ∀ bytes, r ⟨pending, bytes⟩ = .ok (x, ⟨left, bytes⟩))
    (left_lt : pending.length < 8 → left.length < 8) : Delimits r pending [] x left where
  any := run
  cut m short := absurd short (Nat.not_lt_zero m)
  left_lt := left_lt

theorem selfDelimiting_pure (x : α) : SelfDelimiting (pure x : BitReader α) := by
  intro input y rest run
  cases run
  exact ⟨[], rfl, delimits_nil (fun _ => rfl) id⟩

theorem selfDelimiting_corrupt : SelfDelimiting (corrupt : BitReader α) := by
  intro input y rest run
  cases run

/-- What two readers take one after the other delimits itself. -/
theorem Delimits.bind {r : BitReader α} {f : α → BitReader β} {pending middle left : List Bool}
    {taken more : List UInt8} {x : α} {y : β} (first : Delimits r pending taken x middle)
    (second : Delimits (f x) middle more y left) :
    Delimits (r >>= f) pending (taken ++ more) y left where
  any rest := by
    rw [List.append_assoc, bind_of_ok (first.any _)]
    exact second.any rest
  cut m short := by
    by_cases inFirst : m < taken.length
    · rw [List.take_append_of_le_length (Nat.le_of_lt inFirst)]
      exact bind_of_error (first.cut m inFirst)
    · rw [List.take_append, List.take_of_length_le (Nat.le_of_not_lt inFirst),
        bind_of_ok (first.any _)]
      rw [List.length_append] at short
      exact second.cut (m - taken.length) (by omega)
  left_lt := second.left_lt ∘ first.left_lt

theorem SelfDelimitingAt.bind {r : BitReader α} {f : α → BitReader β} {input : Bits}
    (first : SelfDelimitingAt r input)
    (second : ∀ x rest, r input = .ok (x, rest) → SelfDelimitingAt (f x) rest) :
    SelfDelimitingAt (r >>= f) input := by
  intro y rest run
  cases step : r input with
  | error fault => cases (bind_of_error step).symm.trans run
  | ok p =>
    obtain ⟨x, middle⟩ := p
    rw [bind_of_ok step] at run
    obtain ⟨taken, split, delimits⟩ := first x middle step
    obtain ⟨more, splitMore, delimitsMore⟩ := second x middle step y rest run
    exact ⟨taken ++ more, by rw [split, splitMore, List.append_assoc], delimits.bind delimitsMore⟩

theorem SelfDelimiting.bind {r : BitReader α} {f : α → BitReader β} (first : SelfDelimiting r)
    (second : ∀ x, SelfDelimiting (f x)) : SelfDelimiting (r >>= f) := fun input =>
  (first input).bind fun x rest _ => second x rest

end

/-! ## Bits and bytes -/

theorem selfDelimiting_bit : SelfDelimiting bit := by
  rintro ⟨pending, bytes⟩ x rest run
  cases pending with
  | cons b pending =>
    cases run
    exact ⟨[], rfl, delimits_nil (fun _ => rfl) Nat.lt_of_succ_lt⟩
  | nil =>
    cases bytes with
    | nil => cases run
    | cons byte bytes =>
      cases run
      refine ⟨[byte], rfl, fun _ => rfl, fun m short => ?_, fun _ => Nat.lt_succ_self 7⟩
      rw [Nat.lt_one_iff.mp short]
      rfl

theorem selfDelimiting_align : SelfDelimiting align := by
  intro input x rest run
  cases run
  exact ⟨[], rfl, delimits_nil (fun _ => rfl) fun _ => Nat.zero_lt_succ 7⟩

theorem selfDelimiting_bytes (count : Nat) : SelfDelimiting (bytes count) := by
  rintro ⟨pending, input⟩ x rest run
  unfold bytes at run
  simp only at run
  split at run
  · rename_i full
    cases run
    refine ⟨input.take count, (List.take_append_drop count input).symm, ?_, ?_, id⟩
    · intro more
      simp [bytes, full]
    · intro m short
      have fewer : (((input.take count).take m).take count).length ≠ count := by
        simp only [List.length_take] at full short ⊢
        omega
      exact if_neg fewer
  · cases run

theorem selfDelimiting_number (count : Nat) : SelfDelimiting (number count) := by
  induction count with
  | zero => exact selfDelimiting_pure 0
  | succ n ih => exact selfDelimiting_bit.bind fun _ => ih.bind fun _ => selfDelimiting_pure _

end BitReader

open BitReader

/-! ## Words of a prefix code -/

theorem CodeTree.selfDelimiting_read (t : CodeTree) : SelfDelimiting t.read := by
  induction t with
  | unassigned => exact selfDelimiting_corrupt
  | symbol value => exact selfDelimiting_pure value
  | branch zero one ihz iho =>
    refine selfDelimiting_bit.bind fun b => ?_
    cases b
    · exact ihz
    · exact iho

theorem Code.selfDelimiting_read (code : Code) : SelfDelimiting code.read := by
  refine selfDelimiting_bit.bind fun b => ?_
  cases b
  · exact code.zero.selfDelimiting_read
  · exact code.one.selfDelimiting_read

theorem selfDelimiting_classValue (classes : List (Nat × Nat)) (symbol : Nat) :
    SelfDelimiting (classValue classes symbol) := by
  unfold classValue
  split
  · exact selfDelimiting_corrupt
  · exact (selfDelimiting_number _).bind fun _ => selfDelimiting_pure _

theorem Token.selfDelimiting_read (literals distances : Code) :
    SelfDelimiting (Token.read literals distances) := by
  refine literals.selfDelimiting_read.bind fun symbol => ?_
  split
  · exact selfDelimiting_pure _
  · split
    · exact selfDelimiting_pure _
    · exact (selfDelimiting_classValue _ _).bind fun _ =>
        distances.selfDelimiting_read.bind fun _ =>
          (selfDelimiting_classValue _ _).bind fun _ => selfDelimiting_pure _

/-! ## Compressed blocks -/

/-- The tokens of a block, one reader behind another. -/
theorem readTokens_eq (literals distances : Code) (out : Output) :
    readTokens literals distances out = (do
      match ← Token.read literals distances with
      | .endOfBlock => return out
      | .literal byte => readTokens literals distances (out.push byte)
      | .copy length distance =>
        if distance ≤ out.size then readTokens literals distances (out.copyBack distance length)
        else corrupt : BitReader Output) := by
  funext input
  rw [readTokens]
  split
  · rename_i step
    rw [bind_of_error step]
  · rename_i step
    rw [bind_of_ok step]
    rfl
  · rename_i step
    rw [bind_of_ok step]
  · rename_i length distance rest step
    rw [bind_of_ok step]
    dsimp only
    split <;> rfl

theorem selfDelimiting_readTokens (literals distances : Code) (out : Output) :
    SelfDelimiting (readTokens literals distances out) := by
  intro input
  rw [readTokens_eq]
  refine (Token.selfDelimiting_read literals distances input).bind fun token rest step => ?_
  have := Token.takes_read literals distances _ _ _ step
  cases token with
  | endOfBlock => exact selfDelimiting_pure out rest
  | literal byte => exact selfDelimiting_readTokens literals distances (out.push byte) rest
  | copy length distance =>
    dsimp only
    split
    · exact selfDelimiting_readTokens literals distances (out.copyBack distance length) rest
    · exact selfDelimiting_corrupt rest
termination_by input => input.remaining

/-! ## Transmitted codes -/

theorem selfDelimiting_readNumbers (width count : Nat) :
    SelfDelimiting (readNumbers width count) := by
  induction count with
  | zero => exact selfDelimiting_pure _
  | succ n ih =>
    exact (selfDelimiting_number width).bind fun _ => ih.bind fun _ => selfDelimiting_pure _

theorem selfDelimiting_readRun (code : Code) (previous : Option Nat) :
    SelfDelimiting (readRun code previous) := by
  refine code.selfDelimiting_read.bind fun symbol => ?_
  split
  · exact selfDelimiting_pure _
  · split
    · split
      · exact selfDelimiting_corrupt
      · exact (selfDelimiting_number 2).bind fun _ => selfDelimiting_pure _
    · split
      · exact (selfDelimiting_number 3).bind fun _ => selfDelimiting_pure _
      · exact (selfDelimiting_number 7).bind fun _ => selfDelimiting_pure _

/-- The word lengths of two codes, one run behind another. -/
theorem readLengths_eq (code : Code) (total : Nat) (latest : List Nat) :
    readLengths code total latest = (
      if latest.length = total then return latest.reverse
      else if total < latest.length then corrupt
      else do
        let (count, length) ← readRun code latest.head?
        readLengths code total (List.replicate count length ++ latest) :
      BitReader (List Nat)) := by
  funext input
  rw [readLengths]
  split
  · rfl
  · split
    · rfl
    · split
      · rename_i step
        rw [bind_of_error step]
      · rename_i step
        rw [bind_of_ok step]

theorem selfDelimiting_readLengths (code : Code) (total : Nat) (latest : List Nat) :
    SelfDelimiting (readLengths code total latest) := by
  intro input
  rw [readLengths_eq]
  split
  · exact selfDelimiting_pure _ input
  · split
    · exact selfDelimiting_corrupt input
    · refine (selfDelimiting_readRun code latest.head? input).bind fun (count, length) rest step => ?_
      have := takes_readRun code _ _ _ _ step
      exact selfDelimiting_readLengths code total (List.replicate count length ++ latest) rest
termination_by input => input.remaining

theorem selfDelimiting_readCodes : SelfDelimiting readCodes := by
  refine (selfDelimiting_number 5).bind fun _ => (selfDelimiting_number 5).bind fun _ =>
    (selfDelimiting_number 4).bind fun _ => ?_
  split
  · exact selfDelimiting_corrupt
  · refine (selfDelimiting_readNumbers _ _).bind fun sent => ?_
    dsimp only
    split
    · refine (selfDelimiting_readLengths _ _ _).bind fun lengths => ?_
      split
      · exact selfDelimiting_pure _
      · exact selfDelimiting_corrupt
    · exact selfDelimiting_corrupt

/-! ## Blocks -/

theorem selfDelimiting_readStored : SelfDelimiting readStored := by
  refine selfDelimiting_align.bind fun _ => (selfDelimiting_bytes 4).bind fun header => ?_
  split
  · dsimp only
    split
    · exact selfDelimiting_bytes _
    · exact selfDelimiting_corrupt
  · exact selfDelimiting_corrupt

theorem selfDelimiting_readBlock (kind : Nat) (out : Output) :
    SelfDelimiting (readBlock kind out) := by
  unfold readBlock
  split
  · exact selfDelimiting_readStored.bind fun _ => selfDelimiting_pure _
  · exact selfDelimiting_readTokens _ _ _
  · exact selfDelimiting_readCodes.bind fun _ => selfDelimiting_readTokens _ _ _
  · exact selfDelimiting_corrupt

theorem selfDelimiting_readFramed (out : Output) : SelfDelimiting (readFramed out) :=
  selfDelimiting_bit.bind fun _ => (selfDelimiting_number 2).bind fun kind =>
    (selfDelimiting_readBlock kind out).bind fun _ => selfDelimiting_pure _

/-- The blocks of a stream, one behind another. -/
theorem readBlocks_eq (out : Output) :
    readBlocks out = (do
      let (isLast, next) ← readFramed out
      if isLast then return next else readBlocks next : BitReader Output) := by
  funext input
  rw [readBlocks]
  split
  · rename_i step
    rw [bind_of_error step]
  · rename_i step
    rw [bind_of_ok step]
    rfl
  · rename_i step
    rw [bind_of_ok step]
    rfl

theorem selfDelimiting_readBlocks (out : Output) : SelfDelimiting (readBlocks out) := by
  intro input
  rw [readBlocks_eq]
  refine (selfDelimiting_readFramed out input).bind fun (isLast, next) rest step => ?_
  have := takes_readFramed out _ _ _ step
  cases isLast with
  | true => exact selfDelimiting_pure next rest
  | false => exact selfDelimiting_readBlocks next rest
termination_by input => input.remaining

/-! ## Streams -/

/-- The number of bytes up to the one that the last bit of a stream lies in, zero if there is no end. -/
def streamLength (bytes : List UInt8) : Nat :=
  match readBlocks #[] (.ofBytes bytes) with
  | .error _ => 0
  | .ok (_, rest) => ((Bits.ofBytes bytes).remaining - rest.remaining + 7) / 8

/-- A stream stands for the same bytes whatever stands behind it, and is incomplete wherever it is cut
off. -/
theorem inflate_extent {bytes text : List UInt8} (read : inflate bytes = .ok text) :
    streamLength bytes ≤ bytes.length ∧
    (∀ more, inflate (bytes.take (streamLength bytes) ++ more) = .ok text) ∧
    ∀ m < streamLength bytes, inflate (bytes.take m) = .error .incomplete := by
  unfold inflate at read
  cases run : readBlocks #[] (.ofBytes bytes) with
  | error fault => rw [run] at read; cases read
  | ok p =>
    obtain ⟨out, rest⟩ := p
    rw [run] at read
    obtain ⟨taken, split, delimits⟩ := selfDelimiting_readBlocks #[] (.ofBytes bytes) out rest run
    change bytes = taken ++ rest.bytes at split
    change Delimits (readBlocks #[]) [] taken out rest.pending at delimits
    have length : streamLength bytes = taken.length := by
      have left := delimits.left_lt (Nat.zero_lt_succ 7)
      unfold streamLength
      rw [run, split]
      simp only [Bits.remaining, Bits.ofBytes, List.length_nil, List.length_append]
      omega
    rw [length, split, List.take_left]
    refine ⟨?_, fun more => ?_, fun m short => ?_⟩
    · rw [List.length_append]
      exact Nat.le_add_right ..
    · unfold inflate Bits.ofBytes
      rw [delimits.any more]
      exact read
    · unfold inflate Bits.ofBytes
      rw [List.take_append_of_le_length (Nat.le_of_lt short), delimits.cut m short]
      rfl

end Deflate

/-! ## Payloads -/

/-- Nothing behind the stream in a payload matters, and a payload that is cut off within its stream is
never decoded, nor is anything said of the text in it. -/
theorem decodePayload_extent {payload text : List UInt8} (read : Deflate.inflate payload = .ok text) :
    let n := Deflate.streamLength payload
    n ≤ payload.length ∧
    (∀ more, decodePayload (payload.take n ++ more) = decodePayload payload) ∧
    (∀ m < n, decodePayload (payload.take m) = .error (.inflate .incomplete)) ∧
    (PayloadFault.inflate .incomplete).message = "inflate failed: incomplete deflate stream" := by
  obtain ⟨le, any, cut⟩ := Deflate.inflate_extent read
  refine ⟨le, fun more => ?_, fun m short => ?_, rfl⟩
  · unfold decodePayload
    rw [any more, read]
  · unfold decodePayload
    rw [cut m short]

/-- The first of two blocks holds a whole document. -/
theorem decodePayload_extent_twoBlocks :
    let document : List UInt8 := [123, 125]
    let payload := Deflate.storedStream [document] []
    Deflate.inflate payload = .ok document ∧ Deflate.streamLength payload = 12 ∧
      Response.ofText document = .ok ⟨none, none, none⟩ ∧
      decodePayload (payload ++ [255, 0]) = .ok ⟨none, none, none⟩ ∧
      payload.take 7 = Deflate.storedBlock false document ∧
      decodePayload (payload.take 7) = .error (.inflate .incomplete) := by
  intro document payload
  have fits : Deflate.FitStored [document] [] := by
    unfold Deflate.FitStored
    decide
  have read : Deflate.inflate payload = .ok document := Deflate.inflate_storedStream fits
  have length : Deflate.streamLength payload = 12 := by
    have size : payload.length = 12 := rfl
    unfold Deflate.streamLength
    rw [Deflate.readBlocks_storedStream #[] fits]
    simp [Deflate.Bits.remaining, Deflate.Bits.ofBytes, size]
  have whole : Response.ofText document = .ok ⟨none, none, none⟩ := by
    unfold document
    cbv
  obtain ⟨-, any, cut, -⟩ := decodePayload_extent read
  rw [length] at any cut
  have decoded : decodePayload payload = .ok ⟨none, none, none⟩ := by
    unfold decodePayload
    rw [read]
    exact congrArg (Except.mapError PayloadFault.json) whole
  exact ⟨read, length, whole, (any [255, 0]).trans decoded, rfl, cut 7 (by decide)⟩

end MeshTelemetry
