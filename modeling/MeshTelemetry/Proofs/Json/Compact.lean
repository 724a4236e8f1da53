import Mathlib.Data.List.Basic
import MeshTelemetry.Json.Writer
import MeshTelemetry.Proofs.Json.Kept
import MeshTelemetry.Proofs.Json.Recognition
import MeshTelemetry.Proofs.Json.Values

/-!
# Written values are documents

What is written for a value is a text of the grammar, so that what is known about reading documents
applies to it. The spelling of each part is found first: of a character as it is or escaped, of an
integer in its decimal digits, of a double in whatever digits it is written with, as long as they are
read as this double (`ReadsBack`). `exists_document` puts them together: of the document that is written
for a value in the form of kept values, just this value is kept.

`Spells` is the same for the members of an object, each of which may come to something of its own.
-/

namespace MeshTelemetry

/-! ## Bytes of strings -/

theorem toList_loop (bytes : ByteArray) (i : Nat) (taken : List UInt8) :
    ByteArray.toList.loop bytes i taken = taken.reverse ++ bytes.data.toList.drop i := by
  fun_induction ByteArray.toList.loop bytes i taken with
  | case1 i taken inside ih =>
    have within : i < bytes.data.toList.length := inside
    have get : bytes.get! i = bytes.data.toList[i] := getElem!_pos bytes.data i inside
    rw [ih, get, List.reverse_cons, List.append_assoc, List.singleton_append,
      List.getElem_cons_drop within]
  | case2 i taken beyond =>
    rw [List.drop_eq_nil_of_le (Nat.le_of_not_lt beyond), List.append_nil]

/-- The bytes of a string are those of its characters. -/
theorem Text.utf8_eq (s : String) : Text.utf8 s = s.toList.flatMap String.utf8EncodeChar := by
  have bytes : s.toUTF8 = s.toList.utf8Encode := by
    rw [String.toUTF8_eq_toByteArray, String.utf8Encode_toList]
  rw [Text.utf8, bytes, ByteArray.toList, toList_loop]
  simp [List.utf8Encode]

namespace Json

/-! ## Strings -/

theorem escapeByte_of_isPlainByte {b : UInt8} (plain : isPlainByte b = true) :
    escapeByte b = [b] := by
  simp only [isPlainByte, Bool.and_eq_true, Bool.not_eq_true', decide_eq_true_eq,
    decide_eq_false_iff_not] at plain
  obtain ⟨⟨quote, slash⟩, visible⟩ := plain
  have other {c : UInt8} (control : c < 0x20) : b ≠ c := fun eq => visible (eq ▸ control)
  unfold escapeByte
  rw [if_neg quote, if_neg slash, if_neg (other (by decide)), if_neg (other (by decide)),
    if_neg (other (by decide)), if_neg (other (by decide)), if_neg (other (by decide)),
    if_neg visible]

/-- A control character is written by a short escape or by its code unit. -/
theorem escaped_control : ∀ n < 0x20,
    (['b', 'f', 'n', 'r', 't'].any fun letter =>
      shortEscape? (byte letter) = some (Char.ofNat n) ∧
        (String.utf8EncodeChar (Char.ofNat n)).flatMap escapeByte = [byte '\\', byte letter]) ∨
    (hexValue? 0x30 0x30 (byte (Text.Hex.digit (n / 16))) (byte (Text.Hex.digit (n % 16))) = some n ∧
      (String.utf8EncodeChar (Char.ofNat n)).flatMap escapeByte =
        [byte '\\', byte 'u', 0x30, 0x30, byte (Text.Hex.digit (n / 16)),
          byte (Text.Hex.digit (n % 16))]) := by
  decide

theorem exists_spelling_control {n : Nat} (control : n < 0x20) :
    ∃ s : Spelling, s.char = Char.ofNat n ∧
      s.bytes = (String.utf8EncodeChar (Char.ofNat n)).flatMap escapeByte := by
  rcases escaped_control n control with short | ⟨value, written⟩
  · obtain ⟨letter, -, both⟩ := List.any_eq_true.mp short
    obtain ⟨stands, written⟩ := of_decide_eq_true both
    exact ⟨.short (byte letter) (Char.ofNat n) stands, rfl, written.symm⟩
  · have whole : isHighSurrogate n = false ∧ isLowSurrogate n = false := by
      simp only [isHighSurrogate, isLowSurrogate, Bool.and_eq_false_iff, decide_eq_false_iff_not]
      omega
    exact ⟨.unit ⟨_, _, _, _, n, value⟩ whole, rfl, written.symm⟩

/-- What is written for a character spells it. -/
theorem exists_spelling (c : Char) : ∃ s : Spelling, s.char = c ∧
    s.bytes = (String.utf8EncodeChar c).flatMap escapeByte := by
  by_cases plain : isPlain c = true
  · refine ⟨.plain c plain, rfl, ?_⟩
    have same : ∀ b ∈ String.utf8EncodeChar c, escapeByte b = [b] := fun b mem =>
      escapeByte_of_isPlainByte (isPlainByte_of_isPlain plain mem)
    rw [List.flatMap_congr same, List.flatMap_singleton']
    rfl
  · by_cases control : c.toNat < 0x20
    · have spelled := exists_spelling_control control
      rwa [Char.ofNat_toNat] at spelled
    · have special : c = '"' ∨ c = '\\' := by
        simp only [isPlain, Bool.and_eq_true, decide_eq_true_eq, Nat.not_lt] at plain control
        rw [not_and_or, not_and_or] at plain
        rcases plain with (low | quote) | slash
        · exact absurd control low
        · exact .inl (not_not.mp quote)
        · exact .inr (not_not.mp slash)
      rcases special with rfl | rfl
      · exact ⟨.short (byte '"') '"' rfl, rfl, by decide⟩
      · exact ⟨.short (byte '\\') '\\' rfl, rfl, by decide⟩

theorem exists_spellings (cs : List Char) : ∃ q : Quoted, q.map (·.char) = cs ∧
    q.inner = (cs.flatMap String.utf8EncodeChar).flatMap escapeByte := by
  induction cs with
  | nil => exact ⟨[], rfl, rfl⟩
  | cons c cs ih =>
    obtain ⟨s, char, bytes⟩ := exists_spelling c
    obtain ⟨q, chars, inner⟩ := ih
    refine ⟨s :: q, by rw [List.map_cons, char, chars], ?_⟩
    rw [List.flatMap_cons, List.flatMap_append, ← bytes, ← inner]
    rfl

/-- What is written for a string spells it. -/
theorem exists_quoted (s : String) : ∃ q : Quoted, q.text = s ∧ q.bytes = writeText s := by
  obtain ⟨q, chars, inner⟩ := exists_spellings s.toList
  refine ⟨q, ?_, ?_⟩
  · rw [Quoted.text, chars, String.ofList_toList]
  · rw [Quoted.bytes, inner, writeText, Text.utf8_eq]

/-! ## Numbers -/

theorem natural_append (value : Nat) (ds : List (Fin 10)) (d : Fin 10) :
    natural value (ds ++ [d]) = 10 * natural value ds + d.val := by
  rw [natural, List.foldl_append]
  rfl

theorem byte_digitChar : ∀ d : Fin 10, byte (Nat.digitChar d.val) = digitByte d := by
  decide

/-- The decimal digits of a number are an integral part. -/
theorem exists_whole (n : Nat) :
    ∃ w : Whole, digitBytes w.list = ascii (Nat.toDigits 10 n) ∧ natural 0 w.list = n := by
  induction n using Nat.strongRecOn with
  | ind n ih =>
    by_cases small : n < 10
    · rw [Nat.toDigits_of_lt_base small]
      have written : ascii [Nat.digitChar n] = [digitByte ⟨n, small⟩] :=
        congrArg (fun b => [b]) (byte_digitChar ⟨n, small⟩)
      rw [written]
      by_cases zero : n = 0
      · subst zero
        exact ⟨.zero, rfl, rfl⟩
      · refine ⟨.digits ⟨n, small⟩ [] ?_, rfl, Nat.zero_add n⟩
        exact fun eq => zero (congrArg Fin.val eq)
    · have shorter : n / 10 < n := Nat.div_lt_self (by omega) (by decide)
      obtain ⟨w, bytes, value⟩ := ih (n / 10) shorter
      have last : n % 10 < 10 := Nat.mod_lt n (by decide)
      cases w with
      | zero =>
        -- The digits in front spell at least one.
        have nothing : 0 = n / 10 := value
        omega
      | digits first more nonzero =>
        refine ⟨.digits first (more ++ [⟨n % 10, last⟩]) nonzero, ?_, ?_⟩
        · rw [Nat.toDigits_of_base_le (by decide) (Nat.le_of_not_lt small), ascii, List.map_append,
            ← ascii, ← bytes]
          have written := byte_digitChar ⟨n % 10, last⟩
          simp only [Whole.list, List.map_singleton, written]
          rw [← List.cons_append, digitBytes_append]
          rfl
        · have spelled := natural_append 0 (first :: more) ⟨n % 10, last⟩
          have before : natural 0 (first :: more) = n / 10 := value
          rw [before] at spelled
          exact spelled.trans (Nat.div_add_mod n 10)

/-- Without fraction and exponent, digits that fit 64 bits stand for an integer. -/
theorem value?_whole (negative : Bool) {w : Whole} (fits : natural 0 w.list ≤ significandLimit) :
    (Numeral.mk negative w none none).value? = some (integerOf negative (natural 0 w.list)) := by
  have gathered := gather_natural significandLimit 0 0 w.list (Nat.zero_le _)
  rw [if_pos fits] at gathered
  unfold Numeral.value?
  dsimp only
  rw [gathered.1, gathered.2]
  rfl

/-- What is written for an integer is a numeral that stands for it. -/
theorem exists_numeral_integer {n : Int} (fits : FitsWord n) :
    ∃ m : Numeral, m.bytes = (Number.integer n).write ∧ m.value? = some (.integer n) := by
  obtain ⟨low, high⟩ := fits
  cases n with
  | ofNat n =>
    obtain ⟨w, bytes, value⟩ := exists_whole n
    refine ⟨⟨false, w, none, none⟩, ?_, ?_⟩
    · have written : (toString (Int.ofNat n)).toList = Nat.toDigits 10 n := Nat.toList_repr
      rw [Number.write, written, ← bytes]
      simp [Numeral.bytes, Numeral.tailBytes, Numeral.exponentBytes]
    · have bound : natural 0 w.list ≤ significandLimit := by
        rw [value]
        exact Int.ofNat_le.mp high
      rw [value?_whole false bound, value]
      rfl
  | negSucc n =>
    obtain ⟨w, bytes, value⟩ := exists_whole (n + 1)
    refine ⟨⟨true, w, none, none⟩, ?_, ?_⟩
    · have written : (toString (Int.negSucc n)).toList = '-' :: Nat.toDigits 10 (n + 1) := by
        change ("-" ++ Nat.repr (n + 1)).toList = _
        rw [String.toList_append, Nat.toList_repr]
        rfl
      rw [Number.write, written, ascii, List.map_cons, ← ascii, ← bytes]
      simp [Numeral.bytes, Numeral.tailBytes, Numeral.exponentBytes]
    · have half : n + 1 ≤ 0x8000000000000000 := by omega
      have bound : natural 0 w.list ≤ significandLimit := by
        rw [value]
        exact Nat.le_trans half (by decide)
      rw [value?_whole true bound, value, integerOf, if_pos rfl, if_pos ⟨Nat.succ_pos n, half⟩]
      rfl

/-- The text that is written for a double is read as this double. -/
def ReadsBack (x : Float) : Prop :=
  number (Number.float x).write = .ok (.float x, [])

/-- What is written for a double that reads back is a numeral that stands for it. -/
theorem exists_numeral_float {x : Float} (law : ReadsBack x) :
    ∃ m : Numeral, m.bytes = (Number.float x).write ∧ m.value? = some (.float x) := by
  obtain ⟨m, bytes⟩ := exists_numeral law
  rw [List.append_nil] at bytes
  refine ⟨m, bytes.symm, ?_⟩
  have read := read?_number m closed_nil
  rw [List.append_nil, ← bytes, read?_eq_some_iff.mpr law] at read
  obtain ⟨y, value, eq⟩ := Option.map_eq_some_iff.mp read.symm
  cases eq
  exact value

/-! ## Lists and objects -/

theorem intercalate_eq_joined (texts : List (List UInt8)) :
    [byte ','].intercalate texts = joined texts := by
  cases texts with
  | nil => rfl
  | cons text more =>
    induction more generalizing text with
    | nil => simp [joined]
    | cons next more ih =>
      rw [List.intercalate_cons_cons, ih next]
      simp [joined]

theorem enclose_eq (opener closer : Char) (parts : List (List UInt8)) :
    enclose opener closer parts = byte opener :: (joined parts ++ [byte closer]) := by
  rw [enclose, intercalate_eq_joined]
  rfl

/-- A document as an item without blanks. -/
def Padded.tight {α : Type} (x : α) : Padded α :=
  ⟨[], x, []⟩

theorem itemBytes_tight (d : Document) : itemBytes (.tight d) = d.bytes := by
  simp [itemBytes, padded, Padded.tight]

/-- Written values between brackets are a list of what is written. -/
theorem bytes_list_tight {ds : List Document} {xs : List Value}
    (written : ds.map Document.bytes = xs.map Value.write) :
    (Document.list (ds.map Padded.tight) []).bytes = (Value.list xs).write := by
  have parts : (ds.map Padded.tight).map itemBytes = xs.map Value.write := by
    rw [List.map_map, ← written]
    exact List.map_congr_left fun d _ => itemBytes_tight d
  rw [Document.bytes_list, Value.write, enclose_eq, parts]
  rfl

/-- Members of an object come to some parts, each in a document that is what is written for its
value. -/
def Spells {μ : Type} (f : String → Document → Option μ) (ms : Members) (parts : List μ) : Prop :=
  ∃ entries : List (String × Document),
    entries.map (fun e => (e.1, e.2.bytes)) = ms.map (fun m => (m.1, m.2.write)) ∧
      (entries.mapM fun e => f e.1 e.2) = some parts

section

variable {μ : Type} {f : String → Document → Option μ}

theorem spells_nil : Spells f [] [] :=
  ⟨[], rfl, rfl⟩

theorem Spells.cons {key : String} {v : Value} {d : Document} {part : μ} {ms : Members}
    {parts : List μ} (written : d.bytes = v.write) (read : f key d = some part)
    (more : Spells f ms parts) : Spells f ((key, v) :: ms) (part :: parts) := by
  obtain ⟨entries, bytes, all⟩ := more
  refine ⟨(key, d) :: entries, ?_, ?_⟩
  · rw [List.map_cons, List.map_cons, bytes, written]
  · rw [mapM_cons_eq_bind, all, read]
    rfl

theorem Spells.append {ms others : Members} {parts more : List μ} (first : Spells f ms parts)
    (second : Spells f others more) : Spells f (ms ++ others) (parts ++ more) := by
  obtain ⟨entries, bytes, all⟩ := first
  obtain ⟨behind, tail, rest⟩ := second
  refine ⟨entries ++ behind, by rw [List.map_append, bytes, tail, List.map_append], ?_⟩
  rw [List.mapM_append, all, rest]
  rfl

/-- Entries are the members of an object with their keys as they are written. -/
theorem exists_members (entries : List (String × Document)) :
    ∃ ms : List (Padded Quoted × Padded Document), ms.map entryOf = entries ∧
      ms.map memberBytes = entries.map fun e => writeText e.1 ++ byte ':' :: e.2.bytes := by
  induction entries with
  | nil => exact ⟨[], rfl, rfl⟩
  | cons e entries ih =>
    obtain ⟨key, d⟩ := e
    obtain ⟨ms, same, bytes⟩ := ih
    obtain ⟨q, text, quoted⟩ := exists_quoted key
    refine ⟨(.tight q, .tight d) :: ms, ?_, ?_⟩
    · rw [List.map_cons, same]
      exact congrArg (fun k => (k, d) :: entries) text
    · rw [List.map_cons, List.map_cons, bytes, memberBytes, itemBytes_tight]
      simp [padded, Padded.tight, quoted]

/-- What is written for an object is a document with these members. -/
theorem Spells.exists_object {ms : Members} {parts : List μ} (spells : Spells f ms parts) :
    ∃ members, (Document.object members []).bytes = (Value.object ms).write ∧
      (members.map entryOf).map (·.1) = ms.map (·.1) ∧
      ((members.map entryOf).mapM fun e => f e.1 e.2) = some parts := by
  obtain ⟨entries, bytes, all⟩ := spells
  obtain ⟨members, same, written⟩ := exists_members entries
  refine ⟨members, ?_, ?_, ?_⟩
  · have parts_ : members.map memberBytes =
        ms.map fun m => writeText m.1 ++ byte ':' :: m.2.write := by
      have joined_ := congrArg
        (List.map fun e : String × List UInt8 => writeText e.1 ++ byte ':' :: e.2) bytes
      rw [List.map_map, List.map_map] at joined_
      exact written.trans joined_
    rw [Document.bytes_object, Value.write, enclose_eq, parts_]
    rfl
  · have keys := congrArg (List.map (·.1)) bytes
    rw [List.map_map, List.map_map] at keys
    rw [same]
    exact keys
  · rw [same]
    exact all

end

/-! ## Values -/

/-- The doubles of a number. -/
def Number.floats : Number → List Float
  | .integer _ => []
  | .float x => [x]

/-- The doubles in a value. -/
def Value.floats : Value → List Float
  | .number n => n.floats
  | .list xs => xs.flatMap fun x => x.floats
  | .object ms => ms.flatMap fun m => m.2.floats
  | _ => []
decreasing_by
  · rename_i inside
    have := List.sizeOf_lt_of_mem inside
    simp only [list.sizeOf_spec]
    omega
  · rename_i inside
    have := List.sizeOf_lt_of_mem inside
    have : sizeOf m.2 < sizeOf m := by cases m; simp only [Prod.mk.sizeOf_spec]; omega
    simp only [object.sizeOf_spec]
    omega

theorem exists_numeral_number {n : Number} (fits : n.Fits) (law : ∀ x ∈ n.floats, ReadsBack x) :
    ∃ m : Numeral, m.bytes = n.write ∧ m.value? = some n := by
  cases n with
  | integer n => exact exists_numeral_integer fits
  | float x => exact exists_numeral_float (law x (List.mem_singleton_self x))

/-- Items that are each written as a document are written as the items of a list. -/
theorem exists_items {levels : Nat} {xs : List Value}
    (each : ∀ x ∈ xs, ∃ d : Document, d.bytes = x.write ∧ d.keep? levels = some x) :
    ∃ ds : List Document, ds.map Document.bytes = xs.map Value.write ∧
      ds.mapM (Document.keep? levels) = some xs := by
  induction xs with
  | nil => exact ⟨[], rfl, rfl⟩
  | cons x xs ih =>
    rw [List.forall_mem_cons] at each
    obtain ⟨d, written, kept⟩ := each.1
    obtain ⟨ds, bytes, all⟩ := ih each.2
    refine ⟨d :: ds, by rw [List.map_cons, List.map_cons, written, bytes], ?_⟩
    rw [mapM_cons_eq_bind, kept, all]
    rfl

/-- Members whose values are each written as a document are written as the members of an object. -/
theorem spells_of_forall {μ : Type} {f : String → Document → Option μ} {g : String × Value → μ}
    {ms : Members}
    (each : ∀ m ∈ ms, ∃ d : Document, d.bytes = m.2.write ∧ f m.1 d = some (g m)) :
    Spells f ms (ms.map g) := by
  induction ms with
  | nil => exact spells_nil
  | cons m ms ih =>
    rw [List.forall_mem_cons] at each
    obtain ⟨d, written, read⟩ := each.1
    exact (ih each.2).cons written read

/-- What is written for a value in the form in which it is kept is a document of which just this value
is kept. -/
theorem exists_document {levels : Nat} {v : Value} (kept : v.Kept levels)
    (law : ∀ x ∈ v.floats, ReadsBack x) :
    ∃ d : Document, d.bytes = v.write ∧ d.keep? levels = some v := by
  cases v with
  | null =>
    refine ⟨.null, ?_, by cases levels <;> rfl⟩
    rw [Document.bytes, Value.write]
    rfl
  | boolean b =>
    refine ⟨.boolean b, ?_, by cases levels <;> rfl⟩
    cases b with
    | true =>
      rw [Document.bytes, Value.write]
      rfl
    | false =>
      rw [Document.bytes, Value.write]
      rfl
  | number n =>
    rw [Value.floats] at law
    obtain ⟨m, bytes, value⟩ := exists_numeral_number (kept_number.mp kept) law
    refine ⟨.number m, ?_, ?_⟩
    · rw [Document.bytes, Value.write, bytes]
    · have read : (Document.number m).keep? levels = m.value?.map .number := by cases levels <;> rfl
      rw [read, value]
      rfl
  | text s =>
    obtain ⟨q, text, bytes⟩ := exists_quoted s
    refine ⟨.text q, ?_, ?_⟩
    · rw [Document.bytes, Value.write, bytes]
    · rw [← text]
      cases levels <;> rfl
  | list xs =>
    cases levels with
    | zero => exact kept.elim
    | succ levels =>
      rw [Value.floats] at law
      have each : ∀ x ∈ xs, ∃ d : Document, d.bytes = x.write ∧ d.keep? levels = some x :=
        fun x mem => exists_document (kept x mem) fun y inside =>
          law y (List.mem_flatMap.mpr ⟨x, mem, inside⟩)
      obtain ⟨ds, bytes, all⟩ := exists_items each
      refine ⟨.list (ds.map .tight) [], bytes_list_tight bytes, ?_⟩
      rw [Document.keep?, List.mapM_map]
      change (ds.mapM (Document.keep? levels)).map Value.list = _
      rw [all]
      rfl
  | object ms =>
    cases levels with
    | zero => exact kept.elim
    | succ levels =>
      obtain ⟨strict, inner⟩ := kept
      rw [Value.floats] at law
      have each : ∀ m ∈ ms, ∃ d : Document, d.bytes = m.2.write ∧
          ((d.keep? levels).map fun v => (m.1, v)) = some m := by
        intro m mem
        obtain ⟨d, bytes, read⟩ := exists_document (inner m mem) fun y inside =>
          law y (List.mem_flatMap.mpr ⟨m, mem, inside⟩)
        exact ⟨d, bytes, by rw [read]; rfl⟩
      have spells : Spells (fun key (d : Document) => (d.keep? levels).map fun v => (key, v)) ms
          (ms.map id) := spells_of_forall each
      obtain ⟨members, bytes, -, all⟩ := spells.exists_object
      refine ⟨.object members [], bytes, ?_⟩
      rw [Document.keep?, all, List.map_id, Option.map_some, Entries.ofList_eq_self strict]
termination_by levels

end Json

end MeshTelemetry
