import MeshTelemetry.Proofs.Entries
import MeshTelemetry.Proofs.Json.Values

/-!
# Looking into documents

What can be asked of a document that is read as a record: the value under a key, the members under
other keys, and whether it is an object in which no name occurs twice and every value has its type
(`IsRecord`). The laws relate this to the members that a reader goes through one by one.
-/

namespace MeshTelemetry.Json

variable {α μ : Type}

namespace Document

/-- The members of an object; there are none in anything else. -/
def entries : Document → List (String × Document)
  | object members _ => members.map entryOf
  | _ => []

/-- The document is an object. -/
def isObject : Document → Bool
  | object _ _ => true
  | _ => false

/-- The document is a list. -/
def isList : Document → Bool
  | list _ _ => true
  | _ => false

end Document

/-- The value of the first member whose key is one of these. -/
def under (keys : List String) (entries : List (String × Document)) : Option Document :=
  (entries.find? fun e => decide (e.1 ∈ keys)).map (·.2)

/-- The members whose keys are none of these. -/
def others (keys : List String) (entries : List (String × Document)) : List (String × Document) :=
  entries.filter fun e => decide (e.1 ∉ keys)

theorem under_cons (keys : List String) (key : String) (d : Document)
    (entries : List (String × Document)) :
    under keys ((key, d) :: entries) = if key ∈ keys then some d else under keys entries := by
  unfold under
  by_cases mem : key ∈ keys
  · simp [mem]
  · simp [mem]

theorem others_cons (keys : List String) (key : String) (d : Document)
    (entries : List (String × Document)) :
    others keys ((key, d) :: entries) =
      if key ∈ keys then others keys entries else (key, d) :: others keys entries := by
  unfold others
  by_cases mem : key ∈ keys
  · simp [mem]
  · simp [mem]

theorem mem_of_under {keys : List String} {entries : List (String × Document)} {d : Document}
    (found : under keys entries = some d) : ∃ key ∈ keys, (key, d) ∈ entries := by
  unfold under at found
  rcases Option.map_eq_some_iff.mp found with ⟨e, first, rfl⟩
  exact ⟨e.1, by simpa using List.find?_some first, List.mem_of_find?_eq_some first⟩

theorem mem_others {keys : List String} {entries : List (String × Document)}
    {e : String × Document} : e ∈ others keys entries ↔ e ∈ entries ∧ e.1 ∉ keys := by
  simp [others]

/-! ## Records -/

/-- An object in which no name occurs twice and every value has the type for its key. -/
structure IsRecord (name? : String → Option String) (typed : String → Document → Prop)
    (d : Document) : Prop where
  isObject : d.isObject = true
  once : (d.entries.filterMap fun e => name? e.1).Nodup
  typed : ∀ e ∈ d.entries, typed e.1 e.2

theorem IsRecord.congr {name? : String → Option String} {typed typed' : String → Document → Prop}
    {d : Document} (same : ∀ e ∈ d.entries, (typed e.1 e.2 ↔ typed' e.1 e.2)) :
    IsRecord name? typed d ↔ IsRecord name? typed' d := by
  constructor
  · rintro ⟨isObject, once, fits⟩
    exact ⟨isObject, once, fun e mem => (same e mem).mp (fits e mem)⟩
  · rintro ⟨isObject, once, fits⟩
    exact ⟨isObject, once, fun e mem => (same e mem).mpr (fits e mem)⟩

theorem mapM_cons_eq_some {β : Type} {f : β → Option α} {x : β} {xs : List β} {ys : List α} :
    (x :: xs).mapM f = some ys ↔ ∃ y rest, f x = some y ∧ xs.mapM f = some rest ∧ ys = y :: rest := by
  rw [mapM_cons_eq_bind, Option.bind_eq_some_iff]
  constructor
  · rintro ⟨y, first, more⟩
    rcases Option.map_eq_some_iff.mp more with ⟨rest, all, rfl⟩
    exact ⟨y, rest, first, all, rfl⟩
  · rintro ⟨y, rest, first, all, rfl⟩
    exact ⟨y, first, Option.map_eq_some_iff.mpr ⟨rest, all, rfl⟩⟩

variable {name? : String → Option String} {f : String → Document → Option μ}

/-- Members come to something exactly if no name occurs twice and each of them does. -/
theorem fields?_eq_some_iff {seen : List String} {entries : List (String × Document)} {ms : List μ} :
    fields? name? f seen entries = some ms ↔
      (entries.filterMap fun e => name? e.1).Nodup ∧
        (∀ name ∈ entries.filterMap fun e => name? e.1, name ∉ seen) ∧
        (entries.mapM fun e => f e.1 e.2) = some ms := by
  induction entries generalizing seen ms with
  | nil => simp [fields?]
  | cons e entries ih =>
    obtain ⟨key, d⟩ := e
    rw [fields?, mapM_cons_eq_some]
    dsimp only
    cases named : name? key with
    | none =>
      simp only [List.filterMap_cons, named, Option.bind_eq_some_iff, Option.map_eq_some_iff, ih]
      constructor
      · rintro ⟨m, first, rest, ⟨once, fresh, all⟩, rfl⟩
        exact ⟨once, fresh, m, rest, first, all, rfl⟩
      · rintro ⟨once, fresh, m, rest, first, all, rfl⟩
        exact ⟨m, first, rest, ⟨once, fresh, all⟩, rfl⟩
    | some name =>
      simp only [List.filterMap_cons, named, List.nodup_cons, List.forall_mem_cons]
      by_cases again : name ∈ seen
      · simp [again]
      · simp only [if_neg again, Option.bind_eq_some_iff, Option.map_eq_some_iff, ih, List.mem_cons,
          not_or]
        -- A later name is neither this one nor among those seen before.
        constructor
        · rintro ⟨m, first, rest, ⟨once, fresh, all⟩, rfl⟩
          exact ⟨⟨fun mem => (fresh name mem).1 rfl, once⟩,
            ⟨again, fun other mem => (fresh other mem).2⟩, m, rest, first, all, rfl⟩
        · rintro ⟨⟨absent, once⟩, ⟨-, fresh⟩, m, rest, first, all, rfl⟩
          exact ⟨m, first, rest, ⟨once, fun other mem =>
            ⟨fun same => absent (same ▸ mem), fresh other mem⟩, all⟩, rfl⟩

/-- What an object comes to, if it does, is what its members come to. -/
theorem object?_eq_some {d : Document} {ms : List μ} (read : d.object? name? f = some ms) :
    (d.entries.mapM fun e => f e.1 e.2) = some ms := by
  cases d with
  | object members closing => exact (fields?_eq_some_iff.mp read).2.2
  | _ => cases read

theorem isSome_object? {d : Document} :
    (d.object? name? f).isSome = true ↔ IsRecord name? (fun key v => (f key v).isSome = true) d := by
  cases d with
  | object members closing =>
    rw [Option.isSome_iff_exists]
    constructor
    · rintro ⟨ms, read⟩
      rcases fields?_eq_some_iff.mp read with ⟨once, -, all⟩
      exact ⟨rfl, once, isSome_mapM.mp (Option.isSome_of_eq_some all)⟩
    · rintro ⟨-, once, all⟩
      rcases Option.isSome_iff_exists.mp (isSome_mapM.mpr all) with ⟨ms, read⟩
      exact ⟨ms, fields?_eq_some_iff.mpr ⟨once, fun _ _ => List.not_mem_nil, read⟩⟩
  | _ => exact iff_of_false (by simp [Document.object?]) fun record => (by cases record.isObject)

/-- Unless it is a list, a record is read like an object. -/
theorem record?_eq_object? {d : Document} (plain : d.isList = false) (names : List String) :
    d.record? name? f names = d.object? name? f := by
  cases d with
  | list items closing => cases plain
  | _ => rfl

/-! ## Types -/

/-- A string. -/
def IsText (d : Document) : Prop :=
  ∃ q, d = .text q

/-- A number. -/
def IsNumber (d : Document) : Prop :=
  ∃ n, d = .number n

/-- An integer without sign, fraction and exponent below 2^32. -/
def IsCount (d : Document) : Prop :=
  ∃ n, d = .number n ∧ n.negative = false ∧ n.fraction = none ∧ n.exponent = none ∧
    natural 0 n.whole.list < UInt32.size

theorem isSome_text? {d : Document} : d.text?.isSome = true ↔ IsText d := by
  cases d with
  | text q => exact iff_of_true rfl ⟨q, rfl⟩
  | _ => exact iff_of_false (by simp [Document.text?]) (by rintro ⟨q, eq⟩; cases eq)

theorem isSome_double? {d : Document}
    (valued : ∀ n, d = .number n → n.value?.isSome = true) : d.double?.isSome = true ↔ IsNumber d := by
  cases d with
  | number n =>
    rw [Document.double?, Option.isSome_map]
    exact iff_of_true (valued n rfl) ⟨n, rfl⟩
  | _ => exact iff_of_false (by simp [Document.double?]) (by rintro ⟨n, eq⟩; cases eq)

theorem isSome_count? {d : Document} : d.count?.isSome = true ↔ IsCount d := by
  cases d with
  | number n =>
    have spelled : n.count?.isSome = true ↔ n.negative = false ∧ n.fraction.isNone ∧
        n.exponent.isNone ∧ natural 0 n.whole.list ≤ 0xffffffff := by
      unfold Numeral.count?
      split
      · rename_i counts
        exact iff_of_true rfl counts
      · rename_i other
        exact iff_of_false (by simp) other
    rw [Document.count?, spelled]
    simp only [Option.isNone_iff_eq_none]
    constructor
    · rintro ⟨positive, whole, plain, bound⟩
      exact ⟨n, rfl, positive, whole, plain, Nat.lt_succ_of_le bound⟩
    · rintro ⟨other, eq, positive, whole, plain, bound⟩
      cases eq
      exact ⟨positive, whole, plain, Nat.le_of_lt_succ bound⟩
  | _ => exact iff_of_false (by simp [Document.count?]) (by rintro ⟨n, eq, -⟩; cases eq)

/-! ## Optional fields -/

/-- Null, or of a type. -/
def Nullable (typed : Document → Prop) (d : Document) : Prop :=
  d = .null ∨ typed d

theorem nullable_congr {p q : Document → Prop} {d : Document} (same : p d ↔ q d) :
    Nullable p d ↔ Nullable q d :=
  or_congr Iff.rfl same

theorem isSome_optional? {f : Document → Option α} {d : Document} :
    (d.optional? f).isSome = true ↔ Nullable (fun v => (f v).isSome = true) d := by
  unfold Nullable
  cases d with
  | null => simp [Document.optional?]
  | _ => simp [Document.optional?]

/-- A field is missing, null, or described by its value. -/
inductive Field (describes : Document → α → Prop) : Option Document → Option α → Prop
  | missing : Field describes none none
  | null : Field describes (some .null) none
  | value {d : Document} {x : α} : d ≠ .null → describes d x → Field describes (some d) (some x)

/-- An optional value is what the function gives, and nothing where it gives nothing for null. -/
theorem eq_of_optional? {f : Document → Option α} (null : f .null = none) {d : Document}
    {x : Option α} (read : d.optional? f = some x) : x = f d := by
  cases d with
  | null =>
    cases read
    exact null.symm
  | _ =>
    rcases Option.map_eq_some_iff.mp read with ⟨y, value, rfl⟩
    exact value.symm

/-- An optional record is described by its value if every value under its key is null or describes
what it comes to. -/
theorem field_under {describes : Document → α → Prop} {typed : Document → Prop}
    {f : Document → Option α} {key : String} {entries : List (String × Document)}
    (null : f .null = none) (nullable : ∀ d, (key, d) ∈ entries → Nullable typed d)
    (sound : ∀ d, (key, d) ∈ entries → typed d → ∃ x, f d = some x ∧ describes d x) :
    Field describes (under [key] entries) ((under [key] entries).bind f) := by
  cases found : under [key] entries with
  | none => exact .missing
  | some d =>
    rcases mem_of_under found with ⟨name, named, mem⟩
    rw [List.mem_singleton.mp named] at mem
    rw [Option.bind_some]
    rcases nullable d mem with rfl | fits
    · rw [null]
      exact .null
    · rcases sound d mem fits with ⟨x, value, described⟩
      rw [value]
      refine .value ?_ described
      rintro rfl
      rw [null] at value
      cases value

/-! ## Kept members -/

/-- Members are kept: in ascending order of their keys, and under a key the value of the last member
with this key. -/
structure Keeps (levels : Nat) (entries : List (String × Document)) (kept : Members) : Prop where
  ascending : kept.Pairwise fun a b => a.1 < b.1
  last : ∀ key, kept.lookup key = (entries.reverse.lookup key).bind (Document.keep? levels)

/-- What is kept of a member under its key. -/
def keepMember? (levels : Nat) (e : String × Document) : Option (String × Value) :=
  (e.2.keep? levels).map (e.1, ·)

theorem mapM_reverse {β : Type} {f : β → Option α} {xs : List β} {ys : List α}
    (all : xs.mapM f = some ys) : xs.reverse.mapM f = some ys.reverse := by
  induction xs generalizing ys with
  | nil =>
    cases all
    rfl
  | cons x xs ih =>
    rcases mapM_cons_eq_some.mp all with ⟨y, rest, first, more, rfl⟩
    rw [List.reverse_cons, List.reverse_cons, List.mapM_append, ih more]
    simp [first]

theorem lookup_keepMember? {levels : Nat} {entries : List (String × Document)} {kept : Members}
    (all : entries.mapM (keepMember? levels) = some kept) (key : String) :
    kept.lookup key = (entries.lookup key).bind (Document.keep? levels) := by
  induction entries generalizing kept with
  | nil =>
    cases all
    rfl
  | cons e entries ih =>
    rcases mapM_cons_eq_some.mp all with ⟨kept_, rest, first, more, rfl⟩
    rcases Option.map_eq_some_iff.mp first with ⟨v, value, rfl⟩
    obtain ⟨name, d⟩ := e
    rw [List.lookup_cons, List.lookup_cons]
    cases key == name with
    | true => exact value.symm
    | false => exact ih more

theorem keeps_ofList {levels : Nat} {entries : List (String × Document)} {kept : Members}
    (all : entries.mapM (keepMember? levels) = some kept) :
    Keeps levels entries (Entries.ofList kept) := by
  refine ⟨Entries.pairwise_ofList kept, fun key => ?_⟩
  rw [Entries.lookup_ofList]
  exact lookup_keepMember? (mapM_reverse all) key

/-- If just the members under other keys are picked, with what is kept of them, these are kept. -/
theorem keeps_of_picked {keys : List String} {levels : Nat} {f : String → Document → Option μ}
    {pick : μ → Option (String × Value)}
    (picked : ∀ key d m, f key d = some m →
      key ∈ keys ∧ pick m = none ∨
        key ∉ keys ∧ ∃ v, d.keep? levels = some v ∧ pick m = some (key, v))
    {entries : List (String × Document)} {ms : List μ}
    (all : (entries.mapM fun e => f e.1 e.2) = some ms) :
    Keeps levels (others keys entries) (Entries.ofList (ms.filterMap pick)) := by
  refine keeps_ofList ?_
  induction entries generalizing ms with
  | nil =>
    cases all
    rfl
  | cons e entries ih =>
    rcases mapM_cons_eq_some.mp all with ⟨m, rest, first, more, rfl⟩
    obtain ⟨key, d⟩ := e
    rw [others_cons, List.filterMap_cons]
    rcases picked key d m first with ⟨named, none_⟩ | ⟨other, v, value, some_⟩
    · rw [if_pos named, none_]
      exact ih more
    · rw [if_neg other, some_]
      refine mapM_cons_eq_some.mpr ⟨(key, v), _, ?_, ih more, rfl⟩
      rw [keepMember?, value]
      rfl

end MeshTelemetry.Json
