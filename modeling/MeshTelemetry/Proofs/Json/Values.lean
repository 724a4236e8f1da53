import MeshTelemetry.Proofs.Json.Members

/-!
# Kept values and records

`Document.keep?` is the value that is kept of a document: there is none if brackets are nested too
deep or if a number has no value. `Document.object?` and `Document.record?` are what the members of a
document come to if it is read as an object with given keys, the latter also of a document that is
the list of its fields. The readers of kept values, objects and records make just this of every
document, and `readWhole_document` takes the last step to a whole text.
-/

namespace MeshTelemetry.Json

variable {α μ : Type} {bound : Nat}

theorem isSome_mapM {β : Type} {f : β → Option α} {xs : List β} :
    (xs.mapM f).isSome = true ↔ ∀ x ∈ xs, (f x).isSome = true := by
  induction xs with
  | nil => simp
  | cons x xs ih =>
    rw [List.forall_mem_cons, ← ih, mapM_cons_eq_bind]
    cases f x <;> simp

/-! ## Kept values -/

/-- The value that is kept of a document inside which the given number of brackets may be open. -/
def Document.keep? : Nat → Document → Option Value
  | _, .null => some .null
  | _, .boolean b => some (.boolean b)
  | _, .number n => n.value?.map .number
  | _, .text q => some (.text q.text)
  | 0, .list _ _ => none
  | 0, .object _ _ => none
  | levels + 1, .list items _ =>
    (items.mapM fun (p : Padded Document) => p.inner.keep? levels).map .list
  | levels + 1, .object ms _ =>
    ((ms.map entryOf).mapM fun (e : String × Document) => (e.2.keep? levels).map fun v => (e.1, v)).map
      fun entries => .object (Entries.ofList entries)

theorem keep?_eq_valueWith? (levels : Nat) (d : Document) :
    Document.valueWith? (Document.keep? levels) (Document.keep? levels) d = d.keep? levels := by
  cases d with
  | null => cases levels <;> rfl
  | boolean b => cases levels <;> rfl
  | number n => cases levels <;> rfl
  | text q => cases levels <;> rfl
  | list items closing => rfl
  | object members closing => rfl

/-- Without names, members may be repeated. -/
theorem fields?_of_nameless (f : String → Document → Option μ) (seen : List String)
    (entries : List (String × Document)) :
    fields? (fun _ => none) f seen entries = entries.mapM fun e => f e.1 e.2 := by
  induction entries with
  | nil => rfl
  | cons e entries ih =>
    obtain ⟨key, d⟩ := e
    rw [fields?, mapM_cons_eq_bind]
    dsimp only
    rw [ih]

/-- A kept value is read as what is kept of the document. -/
theorem reads_value (levels : Nat) : Reads bound (value bound levels) (Document.keep? levels) := by
  induction levels with
  | zero =>
    refine Reads.congr (reads_valueWith ?_ ?_) (keep?_eq_valueWith? 0)
    · intro items closing text short closed
      rfl
    · intro members closing text short closed
      rfl
  | succ levels ih =>
    refine Reads.congr (reads_valueWith ?_ ?_) (keep?_eq_valueWith? (levels + 1))
    · intro items closing text short closed
      have counts := count_items items closing
      have read := read?_items (ih.items short) closing text bound (by omega)
      have list : listOf bound (value bound levels) =
          Value.list <$> (do
            advance
            let xs ← Json.items (value bound levels) #[] bound
            closeList
            return xs.toList) := by
        simp [listOf]
      rw [list, read?_map, read, Document.keep?, Option.map_map, Option.map_map]
      rfl
    · intro members closing text short closed
      have reads : ∀ key, Reads bound ((freeShape (value bound levels)).member key)
          fun d => (d.keep? levels).map fun v => (key, v) := fun key => ih.map fun v => (key, v)
      have read := read?_braced reads short text
      unfold objectOf
      rw [bind_pure_comp, read?_map, read, freeShape, fields?_of_nameless, Document.keep?,
        Option.map_map, Option.map_map]
      rfl

/-! ## Limits -/

namespace Document

/-- How many brackets are open at once at most. -/
def depth : Document → Nat
  | list items _ => (items.map fun p => p.inner.depth).foldr max 0 + 1
  | object members _ => (members.map fun m => m.2.inner.depth).foldr max 0 + 1
  | _ => 0
termination_by d => sizeOf d
decreasing_by
  · exact sizeOf_item ‹_›
  · exact sizeOf_member ‹_›

/-- The numerals in a document. -/
def numerals : Document → List Numeral
  | number n => [n]
  | list items _ => items.flatMap fun p => p.inner.numerals
  | object members _ => members.flatMap fun m => m.2.inner.numerals
  | _ => []
termination_by d => sizeOf d
decreasing_by
  · exact sizeOf_item ‹_›
  · exact sizeOf_member ‹_›

/-- Not more brackets are open at once than given, and every number has a value. -/
structure Fits (levels : Nat) (d : Document) : Prop where
  depth_le : d.depth ≤ levels
  valued : ∀ n ∈ d.numerals, n.value?.isSome = true

theorem foldr_max_le {depths : List Nat} {levels : Nat} :
    depths.foldr max 0 ≤ levels ↔ ∀ depth ∈ depths, depth ≤ levels := by
  induction depths with
  | nil => simp
  | cons depth depths ih =>
    rw [List.foldr_cons, List.forall_mem_cons, ← ih]
    exact Nat.max_le

theorem fits_list {items : List (Padded Document)} {closing : Gap} {levels : Nat} :
    (list items closing).Fits (levels + 1) ↔ ∀ p ∈ items, p.inner.Fits levels := by
  have depth_eq : (list items closing).depth = (items.map fun p => p.inner.depth).foldr max 0 + 1 := by
    rw [depth]
  have numerals_eq : (list items closing).numerals = items.flatMap fun p => p.inner.numerals := by
    rw [numerals]
  constructor
  · rintro ⟨shallow, valued⟩ p mem
    rw [depth_eq, Nat.add_le_add_iff_right, foldr_max_le] at shallow
    rw [numerals_eq] at valued
    exact ⟨shallow _ (List.mem_map_of_mem mem),
      fun n inside => valued n (List.mem_flatMap.mpr ⟨p, mem, inside⟩)⟩
  · intro fits
    constructor
    · rw [depth_eq, Nat.add_le_add_iff_right, foldr_max_le]
      intro depth mem
      rcases List.mem_map.mp mem with ⟨p, inside, rfl⟩
      exact (fits p inside).depth_le
    · rw [numerals_eq]
      intro n mem
      rcases List.mem_flatMap.mp mem with ⟨p, inside, mem⟩
      exact (fits p inside).valued n mem

theorem fits_object {members : List (Padded Quoted × Padded Document)} {closing : Gap}
    {levels : Nat} :
    (object members closing).Fits (levels + 1) ↔ ∀ m ∈ members, m.2.inner.Fits levels := by
  have depth_eq : (object members closing).depth =
      (members.map fun m => m.2.inner.depth).foldr max 0 + 1 := by
    rw [depth]
  have numerals_eq : (object members closing).numerals =
      members.flatMap fun m => m.2.inner.numerals := by
    rw [numerals]
  constructor
  · rintro ⟨shallow, valued⟩ m mem
    rw [depth_eq, Nat.add_le_add_iff_right, foldr_max_le] at shallow
    rw [numerals_eq] at valued
    exact ⟨shallow _ (List.mem_map_of_mem mem),
      fun n inside => valued n (List.mem_flatMap.mpr ⟨m, mem, inside⟩)⟩
  · intro fits
    constructor
    · rw [depth_eq, Nat.add_le_add_iff_right, foldr_max_le]
      intro depth mem
      rcases List.mem_map.mp mem with ⟨m, inside, rfl⟩
      exact (fits m inside).depth_le
    · rw [numerals_eq]
      intro n mem
      rcases List.mem_flatMap.mp mem with ⟨m, inside, mem⟩
      exact (fits m inside).valued n mem

theorem fits_number {n : Numeral} {levels : Nat} :
    (number n).Fits levels ↔ n.value?.isSome = true := by
  constructor
  · intro fits
    exact fits.valued n (by simp [numerals])
  · intro valued
    exact ⟨by simp [depth], by simpa [numerals] using valued⟩

/-- A document has a kept value exactly if it keeps to the limits. -/
theorem isSome_keep? (levels : Nat) (d : Document) :
    (d.keep? levels).isSome = true ↔ d.Fits levels := by
  induction levels generalizing d with
  | zero =>
    cases d with
    | null => simpa [keep?] using Fits.mk (by simp [depth]) (by simp [numerals])
    | boolean b => simpa [keep?] using Fits.mk (by simp [depth]) (by simp [numerals])
    | number n => rw [keep?, Option.isSome_map, fits_number]
    | text q => simpa [keep?] using Fits.mk (by simp [depth]) (by simp [numerals])
    | list items closing =>
      refine iff_of_false (by simp [keep?]) fun fits => ?_
      have shallow := fits.depth_le
      rw [depth] at shallow
      exact Nat.not_succ_le_zero _ shallow
    | object members closing =>
      refine iff_of_false (by simp [keep?]) fun fits => ?_
      have shallow := fits.depth_le
      rw [depth] at shallow
      exact Nat.not_succ_le_zero _ shallow
  | succ levels ih =>
    cases d with
    | null => simpa [keep?] using Fits.mk (by simp [depth]) (by simp [numerals])
    | boolean b => simpa [keep?] using Fits.mk (by simp [depth]) (by simp [numerals])
    | number n => rw [keep?, Option.isSome_map, fits_number]
    | text q => simpa [keep?] using Fits.mk (by simp [depth]) (by simp [numerals])
    | list items closing =>
      rw [keep?, Option.isSome_map, isSome_mapM, fits_list]
      exact forall₂_congr fun p mem => ih p.inner
    | object members closing =>
      rw [keep?, Option.isSome_map, isSome_mapM, fits_object, List.forall_mem_map]
      refine forall₂_congr fun m mem => ?_
      rw [Option.isSome_map]
      exact ih m.2.inner

end Document

/-! ## Objects and records -/

/-- What the members of an object come to; nothing for everything else. -/
def Document.object? (name? : String → Option String) (f : String → Document → Option μ) :
    Document → Option (List μ)
  | .object ms _ => fields? name? f [] (ms.map entryOf)
  | _ => none

/-- What the members of an object or the items of the list of its fields come to. -/
def Document.record? (name? : String → Option String) (f : String → Document → Option μ)
    (names : List String) : Document → Option (List μ)
  | .object ms _ => fields? name? f [] (ms.map entryOf)
  | .list items _ => placed? (names.map f) (items.map (·.inner))
  | _ => none

section

variable {shape : Shape μ} {f : String → Document → Option μ}

theorem reads_object (reads : ∀ key, Reads bound (shape.member key) (f key)) (expected : String) :
    Reads bound (object shape expected bound) (Document.object? shape.fieldName f) := by
  intro d g text short closed
  rcases read?_peekValue d g text with ⟨b, opens, peeked⟩
  unfold object
  rw [read?_bind, peeked, Option.bind_some]
  dsimp only
  by_cases brace : b = byte '\x7b'
  · subst brace
    obtain ⟨members, closing, rfl⟩ := opens.eq_object
    rw [if_pos rfl, read?_braced reads short]
    rfl
  · rw [if_neg brace, read?_refuse]
    cases d with
    | object members closing => exact absurd opens brace
    | _ => rfl

theorem reads_record (reads : ∀ key, Reads bound (shape.member key) (f key)) (first : String)
    (names : List String) (expected : String) :
    Reads bound (record shape ((first :: names).map shape.member) expected bound)
      (Document.record? shape.fieldName f (first :: names)) := by
  intro d g text short closed
  rcases read?_peekValue d g text with ⟨b, opens, peeked⟩
  unfold record
  rw [read?_bind, peeked, Option.bind_some]
  dsimp only
  by_cases brace : b = byte '\x7b'
  · subst brace
    obtain ⟨members, closing, rfl⟩ := opens.eq_object
    rw [if_pos rfl, read?_braced reads short]
    rfl
  by_cases bracket : b = byte '['
  · subst bracket
    obtain ⟨items, closing, rfl⟩ := opens.eq_list
    rw [if_neg brace, if_pos rfl, read?_bracketed first names reads short]
    rfl
  · rw [if_neg brace, if_neg bracket, read?_refuse]
    cases d with
    | object members closing => exact absurd opens brace
    | list items closing => exact absurd opens bracket
    | _ => rfl

end

/-! ## Whole texts -/

/-- A text that is a document between blanks is read as what the reader makes of the document. -/
theorem readWhole_document {r : Reader α} {f : Document → Option α} {d : Document}
    (reads : Reads bound r f) (short : d.bytes.length ≤ bound) (before after : Gap) (x : α) :
    readWhole r (padded before d.bytes after) = .ok x ↔ f d = some x := by
  have ends : Closed after.bytes := by simpa using closed_nil.gap after
  have read := reads d before short ends
  have rest : read? peek after.bytes = some (none, []) := by
    simpa using read?_peek_gap after (show ([] : List UInt8).head?.all (!isBlank ·) from rfl)
  have whole : read? (alone r) (padded before d.bytes after) = (f d).map (·, []) := by
    unfold alone padded
    rw [read?_bind, read]
    cases f d with
    | none => rfl
    | some y =>
      rw [Option.map_some, Option.bind_some, read?_bind, rest]
      rfl
  unfold readWhole
  constructor
  · intro run
    split at run
    · rename_i y left step
      cases run
      have read := read?_eq_some_iff.mpr step
      rw [whole] at read
      cases value : f d with
      | none => simp [value] at read
      | some z =>
        rw [value] at read
        cases read
        rfl
    · cases run
  · intro value
    rw [value] at whole
    rw [read?_eq_some_iff.mp whole]

end MeshTelemetry.Json
