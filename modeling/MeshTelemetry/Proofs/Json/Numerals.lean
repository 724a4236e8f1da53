import MeshTelemetry.Proofs.Json.Run

/-!
# The value of a numeral

A `Numeral` is a number as the grammar of JSON spells it. `Numeral.value?` is what it stands for: an
integer if it has neither fraction nor exponent and its digits fit 64 bits, and otherwise its leading
digits, as many as fit 64 bits, scaled by a power of ten. There is no value if that is beyond the
greatest double. `read?_number` says that this is what the reader of numbers gives.

A numeral spells a count if it has no sign, fraction and exponent and is below 2^32;
`value?_bind_count` says that these are the numbers that are taken for one.
-/

namespace MeshTelemetry.Json

/-! ## Digits -/

/-- The byte of a digit. -/
def digitByte (d : Fin 10) : UInt8 :=
  UInt8.ofNat (0x30 + d.val)

/-- The bytes of some digits. -/
def digitBytes (ds : List (Fin 10)) : List UInt8 :=
  ds.map digitByte

theorem isDigit_digitByte (d : Fin 10) : isDigit (digitByte d) = true := by
  revert d
  decide

theorem digitValue_digitByte (d : Fin 10) : digitValue (digitByte d) = d.val := by
  revert d
  decide

theorem digitByte_ne {b : UInt8} (other : isDigit b = false) (d : Fin 10) : digitByte d ≠ b := by
  rintro rfl
  rw [isDigit_digitByte] at other
  cases other

theorem digitByte_ne_zero {d : Fin 10} (nonzero : d ≠ 0) : digitByte d ≠ byte '0' := by
  revert d
  decide

theorem dropWhile_digitBytes (ds : List (Fin 10)) {text : List UInt8}
    (stops : startsWithDigit text = false) :
    (digitBytes ds ++ text).dropWhile isDigit = text := by
  induction ds with
  | nil =>
    cases text with
    | nil => rfl
    | cons b text =>
      have other : isDigit b = false := by simpa [startsWithDigit] using stops
      simp [digitBytes, other]
  | cons d ds ih => simpa [digitBytes, isDigit_digitByte] using ih

theorem takeWhile_digitBytes (ds : List (Fin 10)) {text : List UInt8}
    (stops : startsWithDigit text = false) :
    (digitBytes ds ++ text).takeWhile isDigit = digitBytes ds := by
  induction ds with
  | nil =>
    cases text with
    | nil => rfl
    | cons b text =>
      have other : isDigit b = false := by simpa [startsWithDigit] using stops
      simp [digitBytes, other]
  | cons d ds ih => simpa [digitBytes, isDigit_digitByte] using ih

theorem startsWithDigit_digitBytes (d : Fin 10) (ds : List (Fin 10)) (text : List UInt8) :
    startsWithDigit (digitBytes (d :: ds) ++ text) = true := by
  simp [startsWithDigit, digitBytes, isDigit_digitByte]

/-! ## Gathered digits -/

/-- Gathering stops within the digits, and they are all that it depends on. -/
theorem gather_digitBytes (limit value count : Nat) (ds : List (Fin 10)) {text : List UInt8}
    (stops : startsWithDigit text = false) :
    ∃ left, (gather limit value count (digitBytes ds)).rest = digitBytes left ∧
      gather limit value count (digitBytes ds ++ text) =
        ⟨(gather limit value count (digitBytes ds)).value,
          (gather limit value count (digitBytes ds)).count, digitBytes left ++ text⟩ := by
  induction ds generalizing value count with
  | nil =>
    refine ⟨[], rfl, ?_⟩
    cases text with
    | nil => rfl
    | cons b text =>
      have other : isDigit b = false := by simpa [startsWithDigit] using stops
      simp [digitBytes, gather, other]
  | cons d ds ih =>
    have bytes : digitBytes (d :: ds) = digitByte d :: digitBytes ds := rfl
    rw [bytes, List.cons_append]
    by_cases fits : 10 * value + d.val ≤ limit
    · rcases ih (10 * value + d.val) (count + 1) with ⟨left, rest, run⟩
      refine ⟨left, ?_, ?_⟩ <;>
        simp [gather, isDigit_digitByte, digitValue_digitByte, fits, rest, run]
    · refine ⟨d :: ds, ?_, ?_⟩ <;>
        simp [gather, isDigit_digitByte, digitValue_digitByte, fits, digitBytes]

theorem count_gather (limit value count : Nat) (text : List UInt8) :
    (gather limit value count text).count + (gather limit value count text).rest.length =
      count + text.length := by
  induction text generalizing value count with
  | nil => rfl
  | cons b text ih =>
    unfold gather
    split
    · rw [ih, List.length_cons]
      omega
    · rfl

/-- The first digit always fits. -/
theorem gather_first (limit : Nat) (wide : 9 ≤ limit) (d : Fin 10) (text : List UInt8) :
    gather limit 0 0 (digitByte d :: text) = gather limit (digitValue (digitByte d)) 1 text := by
  have fits : d.val ≤ limit := Nat.le_trans (Nat.le_of_lt_succ d.isLt) wide
  simp [gather, isDigit_digitByte, digitValue_digitByte, fits]

/-! ## Numerals -/

/-- At least one digit. -/
structure Digits where
  first : Fin 10
  more : List (Fin 10)

/-- The bytes of the digits. -/
def Digits.bytes (ds : Digits) : List UInt8 :=
  digitBytes (ds.first :: ds.more)

/-- An exponent, with its letter and its sign. -/
structure Exponent where
  mark : { b : UInt8 // isExponentMark b = true }
  /-- The sign, if there is one: whether it is a minus. -/
  sign : Option Bool
  digits : Digits

/-- The bytes of the sign. -/
def Exponent.signBytes (e : Exponent) : List UInt8 :=
  match e.sign with
  | none => []
  | some true => [byte '-']
  | some false => [byte '+']

/-- The exponent has a minus sign. -/
def Exponent.down (e : Exponent) : Bool :=
  e.sign == some true

/-- The bytes of the exponent. -/
def Exponent.bytes (e : Exponent) : List UInt8 :=
  e.mark.val :: e.signBytes ++ e.digits.bytes

/-- The integral part of a number, without zeros in front. -/
inductive Whole
  | zero
  | digits (first : Fin 10) (more : List (Fin 10)) (nonzero : first ≠ 0)

/-- The digits of an integral part. -/
def Whole.list : Whole → List (Fin 10)
  | zero => [0]
  | digits first more _ => first :: more

/-- A number as it is spelled. -/
structure Numeral where
  negative : Bool
  whole : Whole
  fraction : Option Digits
  exponent : Option Exponent

namespace Numeral

/-- The bytes of the exponent, if there is one. -/
def exponentBytes (n : Numeral) : List UInt8 :=
  n.exponent.elim [] (·.bytes)

/-- The bytes of fraction and exponent. -/
def tailBytes (n : Numeral) : List UInt8 :=
  n.fraction.elim [] (fun ds => byte '.' :: ds.bytes) ++ n.exponentBytes

/-- The bytes of the numeral. -/
def bytes (n : Numeral) : List UInt8 :=
  (if n.negative then [byte '-'] else []) ++ (digitBytes n.whole.list ++ n.tailBytes)

end Numeral

/-! ## Values -/

/-- The number with the given significand and exponent. -/
def assembled? (negative : Bool) (significand : Nat) (exponent : Int) : Option Number :=
  (scaled? (Float.ofNat significand) exponent).map fun x => .float (signed negative x)

/-- A significand with the digits of an exponent. One that does not fit is as good as infinite. -/
def Exponent.scale? (e : Exponent) (negative : Bool) (significand : Nat) (start : Int) :
    Option Number :=
  let run := gather exponentLimit 0 0 e.digits.bytes
  if run.rest.isEmpty then
    assembled? negative significand (if e.down then start - run.value else start + run.value)
  else if significand ≠ 0 && !e.down then none
  else some (.float (signed negative 0.0))

/-- A significand with an exponent, if there is one. -/
def scale? (negative : Bool) (significand : Nat) (start : Int) : Option Exponent → Option Number
  | none => assembled? negative significand start
  | some e => e.scale? negative significand start

/-- The number that a numeral stands for. -/
def Numeral.value? (n : Numeral) : Option Number :=
  let whole := gather significandLimit 0 0 (digitBytes n.whole.list)
  match n.fraction with
  | some ds =>
    let both := gather significandLimit whole.value 0 ds.bytes
    scale? n.negative both.value (whole.rest.length - both.count) n.exponent
  | none =>
    if whole.rest.isEmpty && n.exponent.isNone then some (integerOf n.negative whole.value)
    else scale? n.negative whole.value whole.rest.length n.exponent

/-! ## Reading exponents -/

theorem read?_assemble (negative : Bool) (significand : Nat) (exponent : Int)
    (text : List UInt8) :
    read? (assemble negative significand exponent) text =
      (assembled? negative significand exponent).map (·, text) := by
  unfold assemble assembled?
  cases scaled? (Float.ofNat significand) exponent with
  | none => rfl
  | some x => rfl

theorem read?_exponentDigits (negative : Bool) (significand : Nat) (start : Int) (e : Exponent)
    {text : List UInt8} (stops : startsWithDigit text = false) :
    read? (exponentDigits negative significand start e.down) (e.digits.bytes ++ text) =
      (e.scale? negative significand start).map (·, text) := by
  obtain ⟨mark, sign, first, more⟩ := e
  have bytes : digitBytes (first :: more) = digitByte first :: digitBytes more := rfl
  obtain ⟨left, rest, run⟩ := gather_digitBytes exponentLimit (digitValue (digitByte first)) 1 more
    stops
  simp only [Digits.bytes, Exponent.scale?, bytes, List.cons_append,
    gather_first exponentLimit (by decide)]
  unfold read? exponentDigits
  simp only [isDigit_digitByte, if_true, run, rest]
  cases left with
  | nil =>
    have none : digitBytes [] = [] := rfl
    simp only [none, List.nil_append, stops, Bool.false_eq_true, if_false, List.isEmpty_nil, if_true]
    exact read?_assemble _ _ _ _
  | cons d left =>
    have some : (digitBytes (d :: left)).isEmpty = false := rfl
    simp only [startsWithDigit_digitBytes, if_true, dropWhile_digitBytes _ stops, some,
      Bool.false_eq_true, if_false]
    split <;> rfl

theorem isDigit_of_sign : isDigit (byte '+') = false ∧ isDigit (byte '-') = false := by decide

theorem read?_exponentPart (negative : Bool) (significand : Nat) (start : Int) (e : Exponent)
    {text : List UInt8} (stops : startsWithDigit text = false) :
    read? (exponentPart negative significand start) (e.signBytes ++ (e.digits.bytes ++ text)) =
      (e.scale? negative significand start).map (·, text) := by
  have digits := read?_exponentDigits negative significand start e stops
  have head : (e.digits.bytes ++ text).head? = some (digitByte e.digits.first) := rfl
  unfold read? exponentPart Exponent.signBytes
  cases sign : e.sign with
  | none =>
    rw [show e.down = false by simp [Exponent.down, sign]] at digits
    rw [List.nil_append, head, if_neg, if_neg]
    · exact digits
    · exact fun eq => digitByte_ne isDigit_of_sign.2 _ (Option.some.inj eq)
    · exact fun eq => digitByte_ne isDigit_of_sign.1 _ (Option.some.inj eq)
  | some down =>
    rw [show e.down = down by simp [Exponent.down, sign]] at digits
    cases down with
    | true => exact digits
    | false => exact digits

theorem exponentBytes_eq (e : Exponent) (text : List UInt8) :
    e.bytes ++ text = e.mark.val :: (e.signBytes ++ (e.digits.bytes ++ text)) := by
  simp [Exponent.bytes]

/-- The first byte behind the digits of a number. -/
theorem Closed.stops {text : List UInt8} (closed : Closed text) :
    startsWithDigit text = false ∧ text.head?.any isExponentMark = false ∧
      text.head? ≠ some (byte '.') := by
  have apart (b : UInt8) (h : closes b = true) :
      isDigit b = false ∧ isExponentMark b = false ∧ (b == byte '.') = false := by
    simp only [closes, isBlank, Bool.or_eq_true, decide_eq_true_eq] at h
    rcases h with (((((rfl | rfl) | rfl) | rfl) | rfl) | rfl) | rfl <;> decide
  refine ⟨closed.head?_any fun b h => (apart b h).1, closed.head?_any fun b h => (apart b h).2.1, ?_⟩
  have point := closed.head?_any (p := (· == byte '.')) fun b h => (apart b h).2.2
  intro head
  rw [head] at point
  cases point

theorem isDigit_mark (mark : { b : UInt8 // isExponentMark b = true }) :
    isDigit mark.val = false ∧ mark.val ≠ byte '.' := by
  obtain ⟨b, h⟩ := mark
  change isDigit b = false ∧ b ≠ byte '.'
  simp only [isExponentMark, Bool.or_eq_true, decide_eq_true_eq] at h
  rcases h with rfl | rfl
  · decide
  · decide

theorem read?_optionalExponent (negative : Bool) (significand : Nat) (start : Int)
    (e : Option Exponent) {text : List UInt8} (closed : Closed text) :
    read? (optionalExponent negative significand start) (e.elim [] (·.bytes) ++ text) =
      (scale? negative significand start e).map (·, text) := by
  cases e with
  | none =>
    unfold read? optionalExponent
    rw [Option.elim_none, List.nil_append, closed.stops.2.1]
    exact read?_assemble _ _ _ _
  | some e =>
    rw [Option.elim_some, exponentBytes_eq]
    have marked : (some e.mark.val).any isExponentMark = true := e.mark.property
    unfold read? optionalExponent
    rw [List.head?_cons, if_pos marked]
    exact read?_exponentPart negative significand start e closed.stops.1

/-! ## Reading numbers -/

/-- No digit stands behind the digits of a number. -/
theorem stops_exponent (e : Option Exponent) {text : List UInt8} (closed : Closed text) :
    startsWithDigit (e.elim [] (·.bytes) ++ text) = false ∧
      (e.elim [] (·.bytes) ++ text).head? ≠ some (byte '.') := by
  cases e with
  | none => exact ⟨closed.stops.1, closed.stops.2.2⟩
  | some e =>
    rw [Option.elim_some, exponentBytes_eq]
    exact ⟨(isDigit_mark e.mark).1, fun eq => (isDigit_mark e.mark).2 (Option.some.inj eq)⟩

theorem read?_fractionPart (negative : Bool) (significand : Nat) (scale : Int) (ds : Digits)
    (e : Option Exponent) {text : List UInt8} (closed : Closed text) :
    read? (fractionPart negative significand scale)
        (ds.bytes ++ (e.elim [] (·.bytes) ++ text)) =
      (scale? negative (gather significandLimit significand 0 ds.bytes).value
        (scale - (gather significandLimit significand 0 ds.bytes).count) e).map (·, text) := by
  have digits : digitBytes (ds.first :: ds.more) = ds.bytes := rfl
  obtain ⟨left, rest, run⟩ := gather_digitBytes significandLimit significand 0 (ds.first :: ds.more)
    (stops_exponent e closed).1
  rw [digits] at rest run
  have counts := count_gather significandLimit significand 0 ds.bytes
  have read := read?_optionalExponent negative
    (gather significandLimit significand 0 ds.bytes).value
    (scale - (gather significandLimit significand 0 ds.bytes).count) e closed
  unfold read? fractionPart
  simp only [run]
  cases left with
  | nil =>
    have none : digitBytes [] = [] := rfl
    have some : (gather significandLimit significand 0 ds.bytes).count ≠ 0 := by
      rw [rest, none, List.length_nil] at counts
      simp only [Digits.bytes, digitBytes, List.map_cons, List.length_cons] at counts ⊢
      omega
    simp only [none, List.nil_append, stops_exponent e closed, Bool.false_eq_true, if_false]
    rw [if_neg some]
    exact read
  | cons d left =>
    simp only [startsWithDigit_digitBytes, if_true,
      dropWhile_digitBytes _ (stops_exponent e closed).1]
    exact read

/-- What stands behind the integral part is read as fraction and exponent. -/
theorem read?_afterLongInteger (n : Numeral) (significand dropped : Nat) {text : List UInt8}
    (closed : Closed text) :
    read? (afterLongInteger n.negative significand dropped) (n.tailBytes ++ text) =
      (match n.fraction with
        | some ds =>
          scale? n.negative (gather significandLimit significand 0 ds.bytes).value
            (dropped - (gather significandLimit significand 0 ds.bytes).count) n.exponent
        | none => scale? n.negative significand dropped n.exponent).map (·, text) := by
  unfold Numeral.tailBytes Numeral.exponentBytes
  rw [List.append_assoc]
  cases n.fraction with
  | some ds =>
    rw [Option.elim_some, List.cons_append]
    exact read?_fractionPart n.negative significand dropped ds n.exponent closed
  | none =>
    rw [Option.elim_none, List.nil_append]
    unfold read? afterLongInteger
    rw [if_neg (stops_exponent n.exponent closed).2]
    exact read?_optionalExponent n.negative significand dropped n.exponent closed

theorem read?_afterInteger (n : Numeral) (significand : Nat) {text : List UInt8}
    (closed : Closed text) :
    read? (afterInteger n.negative significand) (n.tailBytes ++ text) =
      (match n.fraction with
        | some ds =>
          scale? n.negative (gather significandLimit significand 0 ds.bytes).value
            (0 - (gather significandLimit significand 0 ds.bytes).count) n.exponent
        | none =>
          if n.exponent.isNone then some (integerOf n.negative significand)
          else scale? n.negative significand 0 n.exponent).map (·, text) := by
  unfold Numeral.tailBytes Numeral.exponentBytes
  rw [List.append_assoc]
  cases n.fraction with
  | some ds =>
    rw [Option.elim_some, List.cons_append]
    exact read?_fractionPart n.negative significand 0 ds n.exponent closed
  | none =>
    rw [Option.elim_none, List.nil_append]
    unfold read? afterInteger
    rw [if_neg (stops_exponent n.exponent closed).2]
    cases n.exponent with
    | none =>
      rw [Option.elim_none, List.nil_append, closed.stops.2.1]
      rfl
    | some e =>
      have marked : (some e.mark.val).any isExponentMark = true := e.mark.property
      rw [Option.elim_some, exponentBytes_eq, List.head?_cons, if_pos marked]
      exact read?_exponentPart n.negative significand 0 e closed.stops.1

theorem stops_tail (n : Numeral) {text : List UInt8} (closed : Closed text) :
    startsWithDigit (n.tailBytes ++ text) = false := by
  unfold Numeral.tailBytes Numeral.exponentBytes
  rw [List.append_assoc]
  cases n.fraction with
  | some ds => rfl
  | none => exact (stops_exponent n.exponent closed).1

theorem read?_unsignedNumber (n : Numeral) {text : List UInt8} (closed : Closed text) :
    read? (unsignedNumber n.negative) (digitBytes n.whole.list ++ (n.tailBytes ++ text)) =
      n.value?.map (·, text) := by
  have stops := stops_tail n closed
  unfold Numeral.value?
  cases n.whole with
  | zero =>
    unfold read? unsignedNumber
    have zero : digitBytes Whole.zero.list = [byte '0'] := rfl
    have run : gather significandLimit 0 0 [byte '0'] = ⟨0, 1, []⟩ := rfl
    rw [zero, List.singleton_append]
    simp only [run, if_true, stops, Bool.false_eq_true, if_false]
    exact read?_afterInteger n 0 closed
  | digits first more nonzero =>
    obtain ⟨left, rest, run⟩ := gather_digitBytes significandLimit (digitValue (digitByte first)) 1
      more stops
    have bytes : digitBytes (Whole.digits first more nonzero).list =
      digitByte first :: digitBytes more := rfl
    unfold read? unsignedNumber
    rw [bytes, List.cons_append, gather_first significandLimit (by decide)]
    simp only [if_neg (digitByte_ne_zero nonzero), isDigit_digitByte, if_true, run, rest]
    cases left with
    | nil =>
      have none : digitBytes [] = [] := rfl
      simp only [none, List.nil_append, stops, Bool.false_eq_true, if_false]
      exact read?_afterInteger n _ closed
    | cons d left =>
      have some : (digitBytes (d :: left)).isEmpty = false := rfl
      simp only [startsWithDigit_digitBytes, if_true, takeWhile_digitBytes _ stops,
        dropWhile_digitBytes _ stops, some]
      exact read?_afterLongInteger n _ _ closed

/-- No sign comes in front of the digits of an integral part. -/
theorem Whole.head_ne_minus (w : Whole) (text : List UInt8) :
    (digitBytes w.list ++ text).head? ≠ some (byte '-') := by
  cases w with
  | zero => exact fun eq => digitByte_ne isDigit_of_sign.2 0 (Option.some.inj eq)
  | digits first more nonzero =>
    exact fun eq => digitByte_ne isDigit_of_sign.2 first (Option.some.inj eq)

/-- A numeral is read as what it stands for. -/
theorem read?_number (n : Numeral) {text : List UInt8} (closed : Closed text) :
    read? number (n.bytes ++ text) = n.value?.map (·, text) := by
  have unsigned := read?_unsignedNumber n closed
  unfold Numeral.bytes
  rw [List.append_assoc, List.append_assoc]
  unfold read? number
  cases negative : n.negative with
  | true =>
    rw [negative] at unsigned
    exact unsigned
  | false =>
    rw [negative] at unsigned
    rw [if_neg Bool.false_ne_true, List.nil_append, if_neg (n.whole.head_ne_minus _)]
    exact unsigned

/-! ## Counts -/

/-- The natural number that some digits spell behind others. -/
def natural (value : Nat) (ds : List (Fin 10)) : Nat :=
  ds.foldl (fun v d => 10 * v + d.val) value

theorem le_natural (value : Nat) (ds : List (Fin 10)) : value ≤ natural value ds := by
  induction ds generalizing value with
  | nil => exact Nat.le_refl _
  | cons d ds ih =>
    have rest := ih (10 * value + d.val)
    simp only [natural, List.foldl_cons] at rest ⊢
    omega

/-- All digits are gathered exactly if the number that they spell fits. -/
theorem gather_natural (limit value count : Nat) (ds : List (Fin 10)) (start : value ≤ limit) :
    if natural value ds ≤ limit then
      (gather limit value count (digitBytes ds)).rest = [] ∧
        (gather limit value count (digitBytes ds)).value = natural value ds
    else (gather limit value count (digitBytes ds)).rest ≠ [] := by
  induction ds generalizing value count with
  | nil =>
    have all : natural value [] = value := rfl
    rw [all, if_pos start]
    exact ⟨rfl, rfl⟩
  | cons d ds ih =>
    have all : natural value (d :: ds) = natural (10 * value + d.val) ds := rfl
    have bytes : digitBytes (d :: ds) = digitByte d :: digitBytes ds := rfl
    rw [all, bytes]
    by_cases fits : 10 * value + d.val ≤ limit
    · have step : gather limit value count (digitByte d :: digitBytes ds) =
          gather limit (10 * value + d.val) (count + 1) (digitBytes ds) := by
        simp [gather, isDigit_digitByte, digitValue_digitByte, fits]
      rw [step]
      exact ih _ _ fits
    · have grows := le_natural (10 * value + d.val) ds
      have step : gather limit value count (digitByte d :: digitBytes ds) =
          ⟨value, count, digitByte d :: digitBytes ds⟩ := by
        simp [gather, isDigit_digitByte, digitValue_digitByte, fits]
      rw [if_neg (by omega), step]
      exact List.cons_ne_nil _ _

/-- The count that a number is, if it is one. -/
def Number.count? : Number → Option UInt32
  | .integer k => if 0 ≤ k ∧ k ≤ 0xffffffff then some (UInt32.ofNat k.toNat) else none
  | .float _ => none

/-- The count that a numeral spells: without sign, fraction and exponent, and below 2^32. -/
def Numeral.count? (n : Numeral) : Option UInt32 :=
  if n.negative = false ∧ n.fraction.isNone ∧ n.exponent.isNone ∧
      natural 0 n.whole.list ≤ 0xffffffff then
    some (UInt32.ofNat (natural 0 n.whole.list))
  else none

/-- What has been scaled is no integer. -/
theorem scale?_bind_count (negative : Bool) (significand : Nat) (start : Int)
    (e : Option Exponent) : (scale? negative significand start e).bind Number.count? = none := by
  have assembled (x : Int) : (assembled? negative significand x).bind Number.count? = none := by
    unfold assembled?
    cases scaled? (Float.ofNat significand) x <;> rfl
  cases e with
  | none => exact assembled start
  | some e =>
    unfold scale? Exponent.scale?
    dsimp only
    split
    · exact assembled _
    · split <;> rfl

/-- A numeral stands for a count exactly if it spells one. -/
theorem value?_bind_count (n : Numeral) : n.value?.bind Number.count? = n.count? := by
  have gathered := gather_natural significandLimit 0 0 n.whole.list (Nat.zero_le _)
  unfold Numeral.value? Numeral.count?
  dsimp only
  cases n.fraction with
  | some ds => simp [scale?_bind_count]
  | none =>
    dsimp only
    cases n.exponent with
    | some e => simp [scale?_bind_count]
    | none =>
      generalize natural 0 n.whole.list = spelled at gathered ⊢
      split at gathered
      · obtain ⟨rest, value⟩ := gathered
        rw [rest, value]
        cases n.negative with
        | false =>
          have positive : integerOf false spelled = .integer spelled := rfl
          have bound : (spelled : Int) ≤ 0xffffffff ↔ spelled ≤ 0xffffffff := by omega
          simp [positive, Number.count?, bound]
        | true =>
          simp only [List.isEmpty_nil, Option.isNone_none, Bool.and_self, if_true, Option.bind_some,
            Bool.true_eq_false, false_and, if_false, integerOf]
          split
          · rename_i positive
            have nonzero : spelled ≠ 0 := Nat.ne_of_gt positive.1
            simp [Number.count?, nonzero]
          · rfl
      · rename_i large
        have exceeds : ¬spelled ≤ 0xffffffff := by
          simp only [significandLimit] at large
          omega
        simp [gathered, scale?_bind_count, exceeds]

end MeshTelemetry.Json
