import MeshTelemetry.Proofs.Json.Numerals
import MeshTelemetry.Proofs.Json.Strings

/-!
# Documents

A `Document` is a JSON text as the grammar derives it: with the blanks between its tokens and with
the spelling of each string and number. `Document.bytes` is the text itself. What a document means
does not depend on blanks and spellings; the readers are related to it module by module.
-/

namespace MeshTelemetry.Json

/-- A part of a text with the blanks around it. -/
structure Padded (α : Type) where
  before : Gap
  inner : α
  after : Gap

/-- A JSON text. Behind the last item or member there may be more blanks. -/
inductive Document
  | null
  | boolean (b : Bool)
  | number (n : Numeral)
  | text (q : Quoted)
  | list (items : List (Padded Document)) (closing : Gap)
  | object (members : List (Padded Quoted × Padded Document)) (closing : Gap)

/-- Texts with commas between them. -/
def joined : List (List UInt8) → List UInt8
  | [] => []
  | text :: more => text ++ more.flatMap (byte ',' :: ·)

/-- Some text with the blanks around it. -/
def padded (before : Gap) (text : List UInt8) (after : Gap) : List UInt8 :=
  before.bytes ++ (text ++ after.bytes)

namespace Document

theorem sizeOf_item {items : List (Padded Document)} {closing : Gap} {p : Padded Document}
    (mem : p ∈ items) : sizeOf p.inner < sizeOf (list items closing) := by
  have smaller := List.sizeOf_lt_of_mem mem
  obtain ⟨before, inner, after⟩ := p
  simp only [Padded.mk.sizeOf_spec, list.sizeOf_spec] at smaller ⊢
  omega

theorem sizeOf_member {members : List (Padded Quoted × Padded Document)} {closing : Gap}
    {m : Padded Quoted × Padded Document} (mem : m ∈ members) :
    sizeOf m.2.inner < sizeOf (object members closing) := by
  have smaller := List.sizeOf_lt_of_mem mem
  obtain ⟨key, before, inner, after⟩ := m
  simp only [Prod.mk.sizeOf_spec, Padded.mk.sizeOf_spec, object.sizeOf_spec] at smaller ⊢
  omega

/-- The bytes of a document. -/
def bytes : Document → List UInt8
  | null => [0x6e, 0x75, 0x6c, 0x6c]
  | boolean true => [0x74, 0x72, 0x75, 0x65]
  | boolean false => [0x66, 0x61, 0x6c, 0x73, 0x65]
  | number n => n.bytes
  | text q => q.bytes
  | list items closing =>
    byte '[' :: (joined (items.map fun p => padded p.before p.inner.bytes p.after) ++
      (closing.bytes ++ [byte ']']))
  | object members closing =>
    byte '\x7b' :: (joined (members.map fun m =>
      padded m.1.before m.1.inner.bytes m.1.after ++
        byte ':' :: padded m.2.before m.2.inner.bytes m.2.after) ++
      (closing.bytes ++ [byte '\x7d']))
termination_by d => sizeOf d
decreasing_by
  · exact sizeOf_item ‹_›
  · exact sizeOf_member ‹_›

end Document

/-- An item of a list with the blanks around it. -/
def itemBytes (p : Padded Document) : List UInt8 :=
  padded p.before p.inner.bytes p.after

/-- A member of an object with the blanks in it. -/
def memberBytes (m : Padded Quoted × Padded Document) : List UInt8 :=
  padded m.1.before m.1.inner.bytes m.1.after ++ byte ':' :: itemBytes m.2

theorem Document.bytes_list (items : List (Padded Document)) (closing : Gap) :
    (Document.list items closing).bytes =
      byte '[' :: (joined (items.map itemBytes) ++ (closing.bytes ++ [byte ']'])) := by
  rw [Document.bytes]
  rfl

theorem Document.bytes_object (members : List (Padded Quoted × Padded Document)) (closing : Gap) :
    (Document.object members closing).bytes =
      byte '\x7b' :: (joined (members.map memberBytes) ++ (closing.bytes ++ [byte '\x7d'])) := by
  rw [Document.bytes]
  rfl

/-! ## First bytes -/

/-- A byte that a number starts with. -/
def startsNumber (b : UInt8) : Bool :=
  b = byte '-' || isDigit b

theorem startsNumber_eq (b : UInt8) : (decide (b = byte '-') || isDigit b) = startsNumber b := rfl

theorem Numeral.bytes_eq_cons (n : Numeral) :
    ∃ b more, n.bytes = b :: more ∧ startsNumber b = true := by
  unfold Numeral.bytes
  cases n.negative with
  | true => exact ⟨_, _, rfl, rfl⟩
  | false =>
    cases n.whole with
    | zero => exact ⟨_, _, rfl, rfl⟩
    | digits first more nonzero =>
      exact ⟨digitByte first, _, rfl, by simp [startsNumber, isDigit_digitByte]⟩

/-- A byte that no number starts with. -/
theorem ne_of_startsNumber {b c : UInt8} (starts : startsNumber b = true)
    (other : startsNumber c = false) : b ≠ c := by
  rintro rfl
  rw [starts] at other
  cases other

namespace Document

/-- The bytes that a document can begin with. -/
def Opens (b : UInt8) : Document → Prop
  | null => b = byte 'n'
  | boolean value => b = if value then byte 't' else byte 'f'
  | number _ => startsNumber b = true
  | text _ => b = byte '"'
  | list _ _ => b = byte '['
  | object _ _ => b = byte '\x7b'

theorem bytes_eq_cons (d : Document) : ∃ b more, d.bytes = b :: more ∧ d.Opens b := by
  cases d with
  | null => exact ⟨_, _, Document.bytes.eq_1, rfl⟩
  | boolean b =>
    cases b with
    | true => exact ⟨_, _, Document.bytes.eq_2, rfl⟩
    | false => exact ⟨_, _, Document.bytes.eq_3, rfl⟩
  | number n =>
    obtain ⟨b, more, bytes, starts⟩ := n.bytes_eq_cons
    exact ⟨b, more, by rw [Document.bytes, bytes], starts⟩
  | text q => exact ⟨_, _, Document.bytes.eq_5 q, rfl⟩
  | list items closing => exact ⟨_, _, Document.bytes_list items closing, rfl⟩
  | object members closing => exact ⟨_, _, Document.bytes_object members closing, rfl⟩

/-- No document begins with a byte that is apart from all of these. -/
theorem Opens.ne {d : Document} {b c : UInt8} (opens : d.Opens b) (number : startsNumber c = false)
    (others : c ∉ [byte 'n', byte 't', byte 'f', byte '"', byte '[', byte '\x7b']) : b ≠ c := by
  rintro rfl
  cases d with
  | null => exact others (by simp [show b = byte 'n' from opens])
  | boolean value =>
    cases value with
    | true => exact others (by simp [show b = byte 't' from opens])
    | false => exact others (by simp [show b = byte 'f' from opens])
  | number n => cases number.symm.trans opens
  | text q => exact others (by simp [show b = byte '"' from opens])
  | list items closing => exact others (by simp [show b = byte '[' from opens])
  | object members closing => exact others (by simp [show b = byte '\x7b' from opens])

theorem Opens.isBlank {d : Document} {b : UInt8} (opens : d.Opens b) : isBlank b = false := by
  have space : b ≠ 0x20 := opens.ne (by decide) (by decide)
  have tab : b ≠ 0x09 := opens.ne (by decide) (by decide)
  have feed : b ≠ 0x0a := opens.ne (by decide) (by decide)
  have carriage : b ≠ 0x0d := opens.ne (by decide) (by decide)
  simp [Json.isBlank, space, tab, feed, carriage]

theorem Opens.eq_null {d : Document} (opens : d.Opens (byte 'n')) : d = null := by
  cases d with
  | null => rfl
  | boolean value => cases value <;> cases opens
  | number n => cases opens
  | text q => cases opens
  | list items closing => cases opens
  | object members closing => cases opens

theorem Opens.eq_number {d : Document} {b : UInt8} (opens : d.Opens b)
    (starts : startsNumber b = true) : ∃ n, d = number n := by
  cases d with
  | null => exact absurd opens (ne_of_startsNumber starts rfl)
  | boolean value =>
    cases value with
    | true => exact absurd opens (ne_of_startsNumber starts rfl)
    | false => exact absurd opens (ne_of_startsNumber starts rfl)
  | number n => exact ⟨n, rfl⟩
  | text q => exact absurd opens (ne_of_startsNumber starts rfl)
  | list items closing => exact absurd opens (ne_of_startsNumber starts rfl)
  | object members closing => exact absurd opens (ne_of_startsNumber starts rfl)

theorem Opens.eq_text {d : Document} (opens : d.Opens (byte '"')) : ∃ q, d = text q := by
  cases d with
  | null => cases opens
  | boolean value => cases value <;> cases opens
  | number n => cases opens
  | text q => exact ⟨q, rfl⟩
  | list items closing => cases opens
  | object members closing => cases opens

theorem Opens.eq_list {d : Document} (opens : d.Opens (byte '[')) :
    ∃ items closing, d = list items closing := by
  cases d with
  | null => cases opens
  | boolean value => cases value <;> cases opens
  | number n => cases opens
  | text q => cases opens
  | list items closing => exact ⟨items, closing, rfl⟩
  | object members closing => cases opens

theorem Opens.eq_object {d : Document} (opens : d.Opens (byte '\x7b')) :
    ∃ members closing, d = object members closing := by
  cases d with
  | null => cases opens
  | boolean value => cases value <;> cases opens
  | number n => cases opens
  | text q => cases opens
  | list items closing => cases opens
  | object members closing => exact ⟨members, closing, rfl⟩

end Document

/-! ## Lengths -/

theorem Document.length_pos (d : Document) : 0 < d.bytes.length := by
  obtain ⟨b, more, bytes, -⟩ := d.bytes_eq_cons
  rw [bytes]
  exact Nat.succ_pos _

theorem length_joined {texts : List (List UInt8)} {text : List UInt8} (mem : text ∈ texts) :
    text.length ≤ (joined texts).length := by
  cases texts with
  | nil => cases mem
  | cons first more =>
    simp only [joined, List.length_append]
    rcases List.mem_cons.mp mem with rfl | mem
    · omega
    · have inside : (byte ',' :: text).length ≤ (more.flatMap (byte ',' :: ·)).length :=
        (List.sublist_flatten_of_mem (List.mem_map_of_mem mem)).length_le
      simp only [List.length_cons] at inside
      omega

/-- Texts that are not empty are no more than their bytes. -/
theorem count_joined {texts : List (List UInt8)} (some : ∀ text ∈ texts, 0 < text.length) :
    texts.length ≤ (joined texts).length := by
  cases texts with
  | nil => exact Nat.zero_le _
  | cons first more =>
    have rest : more.length ≤ (more.flatMap (byte ',' :: ·)).length := by
      clear some
      induction more with
      | nil => exact Nat.zero_le _
      | cons text more ih =>
        simp only [List.flatMap_cons, List.length_append, List.length_cons]
        omega
    have one := some first (List.mem_cons_self ..)
    simp only [joined, List.length_append, List.length_cons]
    omega

theorem length_padded (before : Gap) (text : List UInt8) (after : Gap) :
    text.length ≤ (padded before text after).length := by
  simp only [padded, List.length_append]
  omega

theorem length_item {items : List (Padded Document)} (closing : Gap) {p : Padded Document}
    (mem : p ∈ items) : p.inner.bytes.length + 2 ≤ (Document.list items closing).bytes.length := by
  have inside := length_joined (List.mem_map_of_mem (f := itemBytes) mem)
  have inner := length_padded p.before p.inner.bytes p.after
  rw [Document.bytes_list]
  simp only [itemBytes, List.length_cons, List.length_append, List.length_nil] at inside ⊢
  omega

theorem count_items (items : List (Padded Document)) (closing : Gap) :
    items.length + 2 ≤ (Document.list items closing).bytes.length := by
  have some : ∀ text ∈ items.map itemBytes, 0 < text.length := by
    intro text mem
    rcases List.mem_map.mp mem with ⟨p, -, rfl⟩
    exact Nat.lt_of_lt_of_le p.inner.length_pos (length_padded _ _ _)
  have counts := count_joined some
  rw [Document.bytes_list]
  simp only [List.length_map, List.length_cons, List.length_append, List.length_nil] at counts ⊢
  omega

theorem length_member {members : List (Padded Quoted × Padded Document)} (closing : Gap)
    {m : Padded Quoted × Padded Document} (mem : m ∈ members) :
    m.2.inner.bytes.length + 2 ≤ (Document.object members closing).bytes.length := by
  have inside := length_joined (List.mem_map_of_mem (f := memberBytes) mem)
  have inner := length_padded m.2.before m.2.inner.bytes m.2.after
  rw [Document.bytes_object]
  simp only [memberBytes, itemBytes, List.length_cons, List.length_append, List.length_nil]
    at inside ⊢
  omega

theorem count_members (members : List (Padded Quoted × Padded Document)) (closing : Gap) :
    members.length + 2 ≤ (Document.object members closing).bytes.length := by
  have some : ∀ text ∈ members.map memberBytes, 0 < text.length := by
    intro text mem
    rcases List.mem_map.mp mem with ⟨m, -, rfl⟩
    simp only [memberBytes, List.length_append, List.length_cons]
    omega
  have counts := count_joined some
  rw [Document.bytes_object]
  simp only [List.length_map, List.length_cons, List.length_append, List.length_nil] at counts ⊢
  omega

end MeshTelemetry.Json
