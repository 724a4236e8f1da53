import MeshTelemetry.Proofs.Entries
import MeshTelemetry.Proofs.Json.Run

/-!
# What a reader can yield

`Yields r P` says that whatever the reader `r` gives, of any text, has the property `P`. The laws carry
this through the steps of a reader. For kept values the property is `Value.Kept`: integers fit 64 bits,
brackets are nested no deeper than allowed, and the keys of every object ascend strictly.
-/

namespace MeshTelemetry.Json

/-! ## Kept values -/

/-- An integer that fits 64 bits, with or without sign. -/
def FitsWord (n : Int) : Prop :=
  -0x8000000000000000 ≤ n ∧ n ≤ 0xffffffffffffffff

/-- An integer that fits 64 bits, or a double. -/
def Number.Fits : Number → Prop
  | .integer n => FitsWord n
  | .float _ => True

/-- The form of values that are read inside the given number of brackets. -/
def Value.Kept : Nat → Value → Prop
  | _, .null => True
  | _, .boolean _ => True
  | _, .number n => n.Fits
  | _, .text _ => True
  | 0, .list _ => False
  | 0, .object _ => False
  | levels + 1, .list xs => ∀ x ∈ xs, x.Kept levels
  | levels + 1, .object ms =>
    ms.Pairwise (fun (a b : String × Value) => a.1 < b.1) ∧ ∀ m ∈ ms, m.2.Kept levels

/-! ## Yields -/

variable {α β μ : Type}

/-- Whatever the reader gives has the property. -/
def Yields (r : Reader α) (P : α → Prop) : Prop :=
  ∀ text x rest, r text = .ok (x, rest) → P x

theorem yields_any (r : Reader α) : Yields r fun _ => True :=
  fun _ _ _ _ => trivial

theorem yields_pure {P : α → Prop} {x : α} (holds : P x) : Yields (pure x) P := by
  intro text y rest run
  cases run
  exact holds

theorem Yields.bind {r : Reader α} {f : α → Reader β} {P : α → Prop} {Q : β → Prop}
    (first : Yields r P) (next : ∀ x, P x → Yields (f x) Q) : Yields (r >>= f) Q := by
  intro text y rest run
  change (r text >>= fun p => f p.1 p.2) = _ at run
  cases step : r text with
  | error fault =>
    rw [step] at run
    cases run
  | ok p =>
    rw [step] at run
    exact next p.1 (first text p.1 p.2 step) p.2 y rest run

/-- A step whose outcome does not matter. -/
theorem Yields.after (r : Reader α) {f : α → Reader β} {Q : β → Prop}
    (next : ∀ x, Yields (f x) Q) : Yields (r >>= f) Q :=
  (yields_any r).bind fun x _ => next x

theorem Yields.map {r : Reader α} {f : α → β} {P : α → Prop} {Q : β → Prop} (first : Yields r P)
    (holds : ∀ x, P x → Q (f x)) : Yields (do return f (← r)) Q :=
  first.bind fun x has => yields_pure (holds x has)

theorem Yields.ite {p : Prop} [Decidable p] {r s : Reader α} {P : α → Prop} (first : Yields r P)
    (second : Yields s P) : Yields (if p then r else s) P := by
  split
  · exact first
  · exact second

theorem yields_failBehind (cause : Cause) (P : α → Prop) : Yields (failBehind cause) P := by
  intro text x rest run
  cases run

theorem yields_failOnNext (cause : Cause) (P : α → Prop) : Yields (failOnNext cause) P := by
  intro text x rest run
  cases run

theorem yields_refuse (expected : String) (P : α → Prop) : Yields (refuse expected) P := by
  intro text x rest run
  have read := read?_eq_some_iff.mpr run
  rw [read?_refuse] at read
  cases read

/-! ## Numbers -/

theorem gather_le {limit value : Nat} (start : value ≤ limit) (count : Nat) (text : List UInt8) :
    (gather limit value count text).value ≤ limit := by
  induction text generalizing value count with
  | nil => exact start
  | cons b text ih =>
    unfold gather
    split
    · rename_i fits
      exact ih (of_decide_eq_true (Bool.and_eq_true_iff.mp fits).2) _
    · exact start

theorem fits_integerOf (negative : Bool) {significand : Nat} (le : significand ≤ significandLimit) :
    (integerOf negative significand).Fits := by
  unfold significandLimit at le
  unfold integerOf
  split
  · split
    · rename_i small
      exact ⟨by omega, by omega⟩
    · trivial
  · exact ⟨by omega, by omega⟩

theorem yields_assemble (negative : Bool) (significand : Nat) (exponent : Int) :
    Yields (assemble negative significand exponent) Number.Fits := by
  unfold assemble
  split
  · exact yields_pure trivial
  · exact yields_failBehind _ _

theorem yields_exponentDigits (negative : Bool) (significand : Nat) (start : Int) (down : Bool) :
    Yields (exponentDigits negative significand start down) Number.Fits := by
  intro text x rest run
  unfold exponentDigits at run
  split at run
  · cases run
  · split at run
    · dsimp only at run
      split at run
      · split at run
        · cases run
        · cases run
          trivial
      · exact yields_assemble _ _ _ _ _ _ run
    · cases run

theorem yields_exponentPart (negative : Bool) (significand : Nat) (start : Int) :
    Yields (exponentPart negative significand start) Number.Fits := by
  intro text x rest run
  unfold exponentPart at run
  split at run
  · exact yields_exponentDigits _ _ _ _ _ _ _ run
  · split at run <;> exact yields_exponentDigits _ _ _ _ _ _ _ run

theorem yields_optionalExponent (negative : Bool) (significand : Nat) (exponent : Int) :
    Yields (optionalExponent negative significand exponent) Number.Fits := by
  intro text x rest run
  unfold optionalExponent at run
  split at run
  · exact yields_exponentPart _ _ _ _ _ _ run
  · exact yields_assemble _ _ _ _ _ _ run

theorem yields_fractionPart (negative : Bool) (significand : Nat) (exponent : Int) :
    Yields (fractionPart negative significand exponent) Number.Fits := by
  intro text x rest run
  unfold fractionPart at run
  dsimp only at run
  split at run
  · exact yields_optionalExponent _ _ _ _ _ _ run
  · split at run
    · split at run <;> cases run
    · exact yields_optionalExponent _ _ _ _ _ _ run

theorem yields_afterInteger (negative : Bool) {significand : Nat}
    (le : significand ≤ significandLimit) :
    Yields (afterInteger negative significand) Number.Fits := by
  intro text x rest run
  unfold afterInteger at run
  split at run
  · exact yields_fractionPart _ _ _ _ _ _ run
  · split at run
    · exact yields_exponentPart _ _ _ _ _ _ run
    · cases run
      exact fits_integerOf negative le

theorem yields_afterLongInteger (negative : Bool) (significand dropped : Nat) :
    Yields (afterLongInteger negative significand dropped) Number.Fits := by
  intro text x rest run
  unfold afterLongInteger at run
  split at run
  · exact yields_fractionPart _ _ _ _ _ _ run
  · exact yields_optionalExponent _ _ _ _ _ _ run

theorem yields_unsignedNumber (negative : Bool) : Yields (unsignedNumber negative) Number.Fits := by
  intro text x rest run
  unfold unsignedNumber at run
  split at run
  · cases run
  · rename_i first more
    split at run
    · split at run
      · cases run
      · exact yields_afterInteger negative (Nat.zero_le _) _ _ _ run
    · split at run
      · have small : digitValue first ≤ significandLimit :=
          Nat.le_trans (Nat.le_trans (Nat.sub_le ..) (Nat.le_of_lt first.toNat_lt)) (by decide)
        dsimp only at run
        split at run
        · exact yields_afterLongInteger _ _ _ _ _ _ run
        · exact yields_afterInteger negative (gather_le small 1 more) _ _ _ run
      · cases run

/-- A number is an integer that fits 64 bits, or a double. -/
theorem yields_number : Yields number Number.Fits := by
  intro text x rest run
  unfold number at run
  split at run <;> exact yields_unsignedNumber _ _ _ _ run

/-! ## Lists and objects -/

section

variable {P : α → Prop}

theorem yields_items {item : Reader α} (each : Yields item P) {taken : Array α}
    (before : ∀ x ∈ taken, P x) (bound : Nat) :
    Yields (items item taken bound) fun xs => ∀ x ∈ xs, P x := by
  induction bound generalizing taken with
  | zero => exact yields_failOnNext _ _
  | succ bound ih =>
    unfold items
    refine .after _ fun more => .ite ?_ (yields_pure before)
    refine each.bind fun x has => ih ?_
    intro y mem
    rcases Array.mem_push.mp mem with mem | rfl
    · exact before y mem
    · exact has

theorem yields_positions {elements : List (Reader α)} (each : ∀ r ∈ elements, Yields r P)
    (first : Bool) : Yields (positions first elements) fun xs => ∀ x ∈ xs, P x := by
  induction elements generalizing first with
  | nil => exact yields_pure fun _ mem => absurd mem List.not_mem_nil
  | cons item more ih =>
    rw [List.forall_mem_cons] at each
    unfold positions
    refine .after _ fun follows => .ite ?_ (yields_pure fun _ mem => absurd mem List.not_mem_nil)
    refine each.1.bind fun x has => (ih each.2 false).map fun xs all => ?_
    exact List.forall_mem_cons.mpr ⟨has, all⟩

theorem yields_duplicate (name : String) (P : α → Prop) : Yields (duplicate name) P := by
  refine .after _ fun b => ?_
  dsimp only
  exact .ite (.after _ fun _ => yields_failBehind _ _) (yields_failBehind _ _)

theorem yields_members {shape : Shape α} (each : ∀ key, Yields (shape.member key) P)
    (seen : List String) {taken : Array α} (before : ∀ m ∈ taken, P m) (bound : Nat) :
    Yields (members shape seen taken bound) fun ms => ∀ m ∈ ms, P m := by
  induction bound generalizing seen taken with
  | zero => exact yields_failOnNext _ _
  | succ bound ih =>
    have next (key : String) (names : List String) :
        Yields (do
          colon
          let m ← shape.member key
          members shape names (taken.push m) bound) fun ms => ∀ m ∈ ms, P m := by
      refine .after _ fun _ => (each key).bind fun m has => ih names ?_
      intro other mem
      rcases Array.mem_push.mp mem with mem | rfl
      · exact before other mem
      · exact has
    unfold members
    refine .after _ fun key? => ?_
    cases key? with
    | none => exact yields_pure before
    | some key =>
      dsimp only
      cases shape.fieldName key with
      | none => exact next key seen
      | some name =>
        exact .ite (yields_duplicate name _) (next key (name :: seen))

theorem yields_braced {shape : Shape α} (each : ∀ key, Yields (shape.member key) P) (bound : Nat) :
    Yields (braced shape bound) fun ms => ∀ m ∈ ms, P m := by
  refine .after _ fun _ => (yields_members each [] (by simp) bound).bind fun ms all => ?_
  exact .after _ fun _ => yields_pure fun m mem => all m (Array.mem_toList_iff.mp mem)

theorem yields_bracketed {elements : List (Reader α)} (each : ∀ r ∈ elements, Yields r P) :
    Yields (bracketed elements) fun ms => ∀ m ∈ ms, P m := by
  refine .after _ fun _ => (yields_positions each true).bind fun ms all => ?_
  exact .after _ fun _ => yields_pure all

/-- The members of an object have what each of them has. -/
theorem yields_object {shape : Shape α} (each : ∀ key, Yields (shape.member key) P)
    (expected : String) (bound : Nat) :
    Yields (object shape expected bound) fun ms => ∀ m ∈ ms, P m :=
  .after _ fun _ => .ite (yields_braced each bound) (yields_refuse _ _)

/-- The members of a record, given as an object or as a list, have what each of them has. -/
theorem yields_record {shape : Shape α} (each : ∀ key, Yields (shape.member key) P)
    (names : List String) (expected : String) (bound : Nat) :
    Yields (record shape (names.map shape.member) expected bound) fun ms => ∀ m ∈ ms, P m := by
  refine .after _ fun _ => .ite (yields_braced each bound) (.ite ?_ (yields_refuse _ _))
  refine yields_bracketed fun r mem => ?_
  obtain ⟨key, -, rfl⟩ := List.mem_map.mp mem
  exact each key

theorem yields_optional {r : Reader α} (yields : Yields r P) :
    Yields (optional r) fun o => ∀ x, o = some x → P x := by
  refine .after _ fun _ => .ite ?_ ?_
  · exact .after _ fun _ => .after _ fun _ => yields_pure fun _ eq => nomatch eq
  · exact yields.map fun x has y eq => by
      cases eq
      exact has

end

/-! ## Values -/

theorem kept_null (levels : Nat) : Value.null.Kept levels := by
  cases levels <;> trivial

theorem kept_boolean (levels : Nat) (b : Bool) : (Value.boolean b).Kept levels := by
  cases levels <;> trivial

theorem kept_number {levels : Nat} {n : Number} : (Value.number n).Kept levels ↔ n.Fits := by
  cases levels <;> exact Iff.rfl

theorem kept_text (levels : Nat) (s : String) : (Value.text s).Kept levels := by
  cases levels <;> trivial

theorem yields_valueWith {list object : Reader Value} {levels : Nat}
    (lists : Yields list (Value.Kept levels)) (objects : Yields object (Value.Kept levels)) :
    Yields (valueWith list object) (Value.Kept levels) := by
  have word_ (w : List UInt8) {v : Value} (kept : v.Kept levels) :
      Yields (do advance; word w; return v) (Value.Kept levels) :=
    .after _ fun _ => .after _ fun _ => yields_pure kept
  refine .after _ fun b => ?_
  refine .ite (word_ _ (kept_null levels)) ?_
  refine .ite (word_ _ (kept_boolean levels true)) ?_
  refine .ite (word_ _ (kept_boolean levels false)) ?_
  refine .ite (yields_number.map fun n fits => kept_number.mpr fits) ?_
  refine .ite (.after _ fun _ => .after _ fun s => yields_pure (kept_text levels s)) ?_
  exact .ite lists (.ite objects (yields_failOnNext _ _))

/-- A value is nested no deeper than allowed, and the keys of its objects ascend. -/
theorem yields_value (bound levels : Nat) : Yields (value bound levels) (Value.Kept levels) := by
  induction levels with
  | zero => exact yields_valueWith (yields_failOnNext _ _) (yields_failOnNext _ _)
  | succ levels ih =>
    refine yields_valueWith ?_ ?_
    · refine .after _ fun _ => (yields_items ih (by simp) bound).bind fun xs all => ?_
      exact .after _ fun _ => yields_pure fun x mem => all x (Array.mem_toList_iff.mp mem)
    · have each (key : String) : Yields ((freeShape (value bound levels)).member key)
          fun m => m.2.Kept levels := ih.map fun v kept => kept
      refine (yields_braced each bound).map fun ms all => ?_
      exact ⟨Entries.pairwise_ofList ms, fun m mem => all m (Entries.mem_of_mem_ofList mem)⟩

/-! ## Whole texts -/

/-- What is read of a whole text has what the reader yields. -/
theorem Yields.readWhole {r : Reader α} {P : α → Prop} (yields : Yields r P) {text : List UInt8}
    {x : α} (run : Json.readWhole r text = .ok x) : P x := by
  have inner : Yields (alone r) P := by
    refine yields.bind fun y has => .after _ fun b? => ?_
    cases b? with
    | none => exact yields_pure has
    | some b => exact yields_failOnNext _ _
  unfold Json.readWhole at run
  split at run
  · rename_i step
    cases run
    exact inner _ _ _ step
  · cases run

end MeshTelemetry.Json
