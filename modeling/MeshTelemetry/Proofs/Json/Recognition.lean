import MeshTelemetry.Proofs.Json.Numerals

/-!
# Only numerals are read as numbers

The reader of numbers consumes a numeral or fails (`exists_numeral`). The proof follows its parts: each
of them consumes what the grammar has at its place.
-/

namespace MeshTelemetry.Json

variable {negative : Bool} {significand : Nat} {start : Int} {text rest : List UInt8} {x : Number}

/-! ## Digits -/

theorem exists_digitByte {b : UInt8} (digit : isDigit b = true) : ∃ d, digitByte d = b := by
  simp only [isDigit, Bool.and_eq_true, decide_eq_true_eq, UInt8.le_iff_toNat_le] at digit
  obtain ⟨low, high⟩ := digit
  have low : 48 ≤ b.toNat := low
  have high : b.toNat ≤ 57 := high
  refine ⟨⟨b.toNat - 48, by omega⟩, ?_⟩
  apply UInt8.toNat_inj.mp
  simp only [digitByte, UInt8.toNat_ofNat']
  omega

theorem exists_digitBytes {bs : List UInt8} (digits : ∀ b ∈ bs, isDigit b = true) :
    ∃ ds, digitBytes ds = bs := by
  induction bs with
  | nil => exact ⟨[], rfl⟩
  | cons b bs ih =>
    rw [List.forall_mem_cons] at digits
    obtain ⟨d, rfl⟩ := exists_digitByte digits.1
    obtain ⟨ds, rfl⟩ := ih digits.2
    exact ⟨d :: ds, rfl⟩

/-- A text is the digits at its front and what stands behind them. -/
theorem exists_digits_dropWhile (text : List UInt8) :
    ∃ ds, text = digitBytes ds ++ text.dropWhile isDigit := by
  have digits : ∀ b ∈ text.takeWhile isDigit, isDigit b = true :=
    List.all_eq_true.mp List.all_takeWhile
  obtain ⟨ds, front⟩ := exists_digitBytes digits
  exact ⟨ds, by rw [front, List.takeWhile_append_dropWhile]⟩

/-- What has been gathered are digits from the front of the text. -/
theorem exists_digits_gather (limit value count : Nat) (text : List UInt8) :
    ∃ ds, text = digitBytes ds ++ (gather limit value count text).rest ∧
      (gather limit value count text).count = count + ds.length := by
  induction text generalizing value count with
  | nil => exact ⟨[], rfl, rfl⟩
  | cons b text ih =>
    unfold gather
    split
    · rename_i fits
      obtain ⟨d, rfl⟩ := exists_digitByte (Bool.and_eq_true_iff.mp fits).1
      obtain ⟨ds, bytes, counts⟩ := ih (10 * value + digitValue (digitByte d)) (count + 1)
      refine ⟨d :: ds, congrArg (digitByte d :: ·) bytes, ?_⟩
      rw [counts, List.length_cons]
      omega
    · exact ⟨[], rfl, rfl⟩

theorem digitBytes_append (xs ys : List (Fin 10)) :
    digitBytes (xs ++ ys) = digitBytes xs ++ digitBytes ys :=
  List.map_append

/-- Digits at the front of a text are at least one. -/
theorem exists_digits_of_startsWithDigit (digit : startsWithDigit text = true) :
    ∃ d ds, text = digitByte d :: (digitBytes ds ++ text.dropWhile isDigit) := by
  cases text with
  | nil => cases digit
  | cons b more =>
    have first : isDigit b = true := digit
    obtain ⟨d, rfl⟩ := exists_digitByte first
    obtain ⟨ds, front⟩ := exists_digits_dropWhile more
    refine ⟨d, ds, ?_⟩
    rw [List.dropWhile_cons_of_pos first, ← front]

/-! ## Exponents -/

/-- Putting a number together consumes nothing. -/
theorem eq_of_assemble {exponent : Int}
    (run : assemble negative significand exponent text = .ok (x, rest)) : text = rest := by
  have read := read?_eq_some_iff.mpr run
  rw [read?_assemble] at read
  obtain ⟨y, -, eq⟩ := Option.map_eq_some_iff.mp read
  exact congrArg Prod.snd eq

theorem exists_exponentDigits {down : Bool}
    (run : exponentDigits negative significand start down text = .ok (x, rest)) :
    ∃ ds : Digits, text = ds.bytes ++ rest := by
  unfold exponentDigits at run
  split at run
  · cases run
  · rename_i first more
    split at run
    · rename_i digit
      obtain ⟨d, rfl⟩ := exists_digitByte digit
      obtain ⟨ds, front, -⟩ :=
        exists_digits_gather exponentLimit (digitValue (digitByte d)) 1 more
      dsimp only at run
      split at run
      · split at run
        · cases run
        · cases run
          -- Digits beyond the limit are consumed without being gathered.
          obtain ⟨others, back⟩ := exists_digits_dropWhile
            (gather exponentLimit (digitValue (digitByte d)) 1 more).rest
          refine ⟨⟨d, ds ++ others⟩, congrArg (digitByte d :: ·) ?_⟩
          change more = digitBytes (ds ++ others) ++ _
          rw [digitBytes_append, List.append_assoc, ← back, ← front]
      · have left := eq_of_assemble run
        refine ⟨⟨d, ds⟩, congrArg (digitByte d :: ·) ?_⟩
        change more = digitBytes ds ++ rest
        rw [← left, ← front]
    · cases run

theorem cons_of_head? {b : UInt8} (first : text.head? = some b) : text = b :: text.drop 1 := by
  cases text with
  | nil => cases first
  | cons c more =>
    cases first
    rfl

theorem exists_exponentPart (mark : { b : UInt8 // isExponentMark b = true })
    (run : exponentPart negative significand start text = .ok (x, rest)) :
    ∃ e : Exponent, mark.val :: text = e.bytes ++ rest := by
  unfold exponentPart at run
  split at run
  · rename_i plus
    obtain ⟨ds, digits⟩ := exists_exponentDigits run
    refine ⟨⟨mark, some false, ds⟩, ?_⟩
    rw [exponentBytes_eq, cons_of_head? plus, digits]
    rfl
  · split at run
    · rename_i minus
      obtain ⟨ds, digits⟩ := exists_exponentDigits run
      refine ⟨⟨mark, some true, ds⟩, ?_⟩
      rw [exponentBytes_eq, cons_of_head? minus, digits]
      rfl
    · obtain ⟨ds, digits⟩ := exists_exponentDigits run
      refine ⟨⟨mark, none, ds⟩, ?_⟩
      rw [exponentBytes_eq, digits]
      rfl

theorem exists_mark (marked : text.head?.any isExponentMark = true) :
    ∃ mark : { b : UInt8 // isExponentMark b = true }, text = mark.val :: text.drop 1 := by
  cases text with
  | nil => cases marked
  | cons b more => exact ⟨⟨b, marked⟩, rfl⟩

theorem exists_optionalExponent {exponent : Int}
    (run : optionalExponent negative significand exponent text = .ok (x, rest)) :
    ∃ e : Option Exponent, text = e.elim [] (·.bytes) ++ rest := by
  unfold optionalExponent at run
  split at run
  · rename_i marked
    obtain ⟨mark, bytes⟩ := exists_mark marked
    obtain ⟨e, exponent⟩ := exists_exponentPart mark run
    exact ⟨some e, bytes.trans exponent⟩
  · exact ⟨none, eq_of_assemble run⟩

/-! ## Fractions -/

theorem exists_fractionPart {exponent : Int}
    (run : fractionPart negative significand exponent text = .ok (x, rest)) :
    ∃ (ds : Digits) (e : Option Exponent), text = ds.bytes ++ (e.elim [] (·.bytes) ++ rest) := by
  obtain ⟨ds, front, counts⟩ := exists_digits_gather significandLimit significand 0 text
  unfold fractionPart at run
  dsimp only at run
  split at run
  · rename_i more
    obtain ⟨d, others, back⟩ := exists_digits_of_startsWithDigit more
    obtain ⟨e, tail⟩ := exists_optionalExponent run
    have whole : text = digitBytes (ds ++ d :: others) ++ (e.elim [] (·.bytes) ++ rest) := by
      rw [digitBytes_append, List.append_assoc, ← tail]
      exact front.trans (congrArg _ back)
    cases all : ds ++ d :: others with
    | nil => exact absurd (List.append_eq_nil_iff.mp all).2 (List.cons_ne_nil _ _)
    | cons first more =>
      rw [all] at whole
      exact ⟨⟨first, more⟩, e, whole⟩
  · split at run
    · split at run <;> cases run
    · rename_i some_
      obtain ⟨e, tail⟩ := exists_optionalExponent run
      cases ds with
      | nil => exact absurd counts some_
      | cons first more => exact ⟨⟨first, more⟩, e, by rw [← tail]; exact front⟩

/-! ## Numbers -/

/-- The bytes of a fraction and an exponent, if there are any. -/
def tailOf (fraction : Option Digits) (exponent : Option Exponent) : List UInt8 :=
  fraction.elim [] (fun ds => byte '.' :: ds.bytes) ++ exponent.elim [] (·.bytes)

theorem exists_tail_of_fraction {exponent : Int} (point : text.head? = some (byte '.'))
    (run : fractionPart negative significand exponent (text.drop 1) = .ok (x, rest)) :
    ∃ fraction exponent, text = tailOf fraction exponent ++ rest := by
  obtain ⟨ds, e, tail⟩ := exists_fractionPart run
  refine ⟨some ds, e, ?_⟩
  rw [tailOf, Option.elim_some, List.cons_append, List.cons_append, List.append_assoc, ← tail]
  exact cons_of_head? point

theorem exists_afterInteger (run : afterInteger negative significand text = .ok (x, rest)) :
    ∃ fraction exponent, text = tailOf fraction exponent ++ rest := by
  unfold afterInteger at run
  split at run
  · rename_i point
    exact exists_tail_of_fraction point run
  · split at run
    · rename_i marked
      obtain ⟨mark, bytes⟩ := exists_mark marked
      obtain ⟨e, exponent⟩ := exists_exponentPart mark run
      exact ⟨none, some e, bytes.trans exponent⟩
    · cases run
      exact ⟨none, none, rfl⟩

theorem exists_afterLongInteger {dropped : Nat}
    (run : afterLongInteger negative significand dropped text = .ok (x, rest)) :
    ∃ fraction exponent, text = tailOf fraction exponent ++ rest := by
  unfold afterLongInteger at run
  split at run
  · rename_i point
    exact exists_tail_of_fraction point run
  · obtain ⟨e, tail⟩ := exists_optionalExponent run
    exact ⟨none, e, tail⟩

theorem exists_unsignedNumber (run : unsignedNumber negative text = .ok (x, rest)) :
    ∃ (w : Whole) (fraction : Option Digits) (exponent : Option Exponent),
      text = digitBytes w.list ++ (tailOf fraction exponent ++ rest) := by
  unfold unsignedNumber at run
  split at run
  · cases run
  · rename_i first more
    split at run
    · rename_i zero
      subst zero
      split at run
      · cases run
      · obtain ⟨fraction, exponent, tail⟩ := exists_afterInteger run
        exact ⟨.zero, fraction, exponent, congrArg (byte '0' :: ·) tail⟩
    · rename_i other
      split at run
      · rename_i digit
        obtain ⟨d, rfl⟩ := exists_digitByte digit
        have nonzero : d ≠ 0 := by
          rintro rfl
          exact other rfl
        obtain ⟨ds, front, -⟩ :=
          exists_digits_gather significandLimit (digitValue (digitByte d)) 1 more
        dsimp only at run
        split at run
        · obtain ⟨others, back⟩ := exists_digits_dropWhile
            (gather significandLimit (digitValue (digitByte d)) 1 more).rest
          obtain ⟨fraction, exponent, tail⟩ := exists_afterLongInteger run
          refine ⟨.digits d (ds ++ others) nonzero, fraction, exponent,
            congrArg (digitByte d :: ·) ?_⟩
          change more = digitBytes (ds ++ others) ++ _
          rw [digitBytes_append, List.append_assoc, ← tail, ← back, ← front]
        · obtain ⟨fraction, exponent, tail⟩ := exists_afterInteger run
          refine ⟨.digits d ds nonzero, fraction, exponent, congrArg (digitByte d :: ·) ?_⟩
          change more = digitBytes ds ++ _
          rw [← tail, ← front]
      · cases run

/-- What is read as a number is a numeral. -/
theorem exists_numeral (run : number text = .ok (x, rest)) : ∃ n : Numeral, text = n.bytes ++ rest := by
  unfold number at run
  split at run
  · rename_i minus
    obtain ⟨w, fraction, exponent, unsigned⟩ := exists_unsignedNumber run
    refine ⟨⟨true, w, fraction, exponent⟩, (cons_of_head? minus).trans ?_⟩
    rw [unsigned]
    simp [Numeral.bytes, Numeral.tailBytes, Numeral.exponentBytes, tailOf]
  · obtain ⟨w, fraction, exponent, unsigned⟩ := exists_unsignedNumber run
    refine ⟨⟨false, w, fraction, exponent⟩, unsigned.trans ?_⟩
    simp [Numeral.bytes, Numeral.tailBytes, Numeral.exponentBytes, tailOf]

end MeshTelemetry.Json
