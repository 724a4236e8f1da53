import MeshTelemetry.Proofs.Toml.Proper

/-!
# What a document assigns to names in tables

`Entries.Assigns` leaves open how a table is written, `Entries.assigned?` computes the same of documents with
distinct names. An assignment under a dotted key adds just this one, as long as the tables have come about by
such keys (`Entries.assign_dotted`).
-/

namespace MeshTelemetry.Toml.Entries

variable {es : Entries} {table name : String} {item : Item}

/-- The document assigns an item to a name in a table, however the table is written. -/
inductive Assigns (es : Entries) : String → String → Item → Prop
  | intro {s e : Entry} {form : Form} {inner : Entries} (outside : s ∈ es)
    (table : s.item = .table form inner) (inside : e ∈ inner) : Assigns es s.name e.name e.item

theorem Assigns.of_mem {k : Key} {place : Option Span} {form : Form} {inner : Entries} {e : Entry}
    (outside : (k, place, Item.table form inner) ∈ es) (inside : e ∈ inner) :
    Assigns es k.name e.name e.item :=
  .intro outside rfl inside

theorem not_assigns_nil : ¬Assigns [] table name item := by
  rintro ⟨outside, -, -⟩
  exact List.not_mem_nil outside

/-- What the document assigns to a name in a table. -/
def assigned? (es : Entries) (table name : String) : Option Item :=
  match es.find? table with
  | some (_, _, .table _ inner) => (Entries.find? inner name).map Entry.item
  | _ => none

/-- In a table with distinct names an entry is found by its name. -/
theorem find?_of_mem (distinct : (es.map Entry.name).Nodup) {e : Entry} (inside : e ∈ es) :
    es.find? e.name = some e := by
  cases found : es.find? e.name with
  | none => exact absurd (List.mem_map_of_mem inside) (find?_eq_none_iff.mp found)
  | some other =>
    obtain ⟨among, same⟩ := mem_of_find? found
    rw [List.inj_on_of_nodup_map distinct among inside same]

/-- Nothing else is assigned to a name in a table than what is found there. -/
theorem Proper.assigns_iff (proper : es.Proper) :
    Assigns es table name item ↔ es.assigned? table name = some item := by
  constructor
  · rintro ⟨outside, table, inside⟩
    rename_i s e form inner
    have whole := proper.each s outside
    obtain ⟨k, place, _⟩ := s
    cases table
    unfold assigned?
    rw [find?_of_mem proper.names outside]
    exact congrArg (Option.map Entry.item) (find?_of_mem whole.entries.names inside)
  · intro found
    unfold assigned? at found
    split at found
    · rename_i k place form inner outside
      obtain ⟨e, inside, rfl⟩ := Option.map_eq_some_iff.mp found
      obtain ⟨among, rfl⟩ := mem_of_find? outside
      obtain ⟨inner, rfl⟩ := mem_of_find? inside
      exact .of_mem among inner
    · cases found

/-! ## Changes -/

theorem assigns_append {others : Entries} :
    Assigns (es ++ others) table name item ↔
      Assigns es table name item ∨ Assigns others table name item := by
  constructor
  · rintro ⟨outside, table, inside⟩
    rcases List.mem_append.mp outside with left | right
    · exact .inl (.intro left table inside)
    · exact .inr (.intro right table inside)
  · rintro (⟨outside, table, inside⟩ | ⟨outside, table, inside⟩)
    · exact .intro (List.mem_append_left _ outside) table inside
    · exact .intro (List.mem_append_right _ outside) table inside

theorem mem_set {s : Entry} {span : Option Span} :
    s ∈ es.set name span item ↔
      s ∈ es ∧ s.name ≠ name ∨ ∃ e ∈ es, e.name = name ∧ s = (e.1, span, item) := by
  unfold Entries.set
  rw [List.mem_map]
  constructor
  · rintro ⟨e, inside, rfl⟩
    by_cases same : e.name = name
    · exact .inr ⟨e, inside, same, by rw [if_pos same]⟩
    · refine .inl ?_
      rw [if_neg same]
      exact ⟨inside, same⟩
  · rintro (⟨inside, other⟩ | ⟨e, inside, same, rfl⟩)
    · exact ⟨s, inside, if_neg other⟩
    · exact ⟨e, inside, if_pos same⟩

/-- Another entry in the table of a name is all that a changed document assigns besides. -/
theorem assigns_set (distinct : (es.map Entry.name).Nodup) {k : Key} {place span : Option Span}
    {form : Form} {inner : Entries} (outside : (k, place, Item.table form inner) ∈ es) {e : Entry}
    {x : Item} :
    Assigns (es.set k.name span (.table form (inner ++ [e]))) table name x ↔
      Assigns es table name x ∨ table = k.name ∧ name = e.name ∧ x = e.item := by
  have unique : ∀ s ∈ es, s.name = k.name → s = (k, place, Item.table form inner) :=
    fun s inside same => List.inj_on_of_nodup_map distinct inside outside same
  constructor
  · rintro ⟨among, table, inside⟩
    rcases mem_set.mp among with ⟨old, -⟩ | ⟨s, old, same, rfl⟩
    · exact .inl (.intro old table inside)
    · cases table
      rcases List.mem_append.mp inside with before | new
      · have whole := unique s old same
        rw [whole]
        exact .inl (.of_mem outside before)
      · rw [List.mem_singleton.mp new]
        exact .inr ⟨same, rfl, rfl⟩
  · have changed : (k, span, Item.table form (inner ++ [e])) ∈
        es.set k.name span (.table form (inner ++ [e])) := mem_set.mpr (.inr ⟨_, outside, rfl, rfl⟩)
    rintro (⟨old, table, inside⟩ | ⟨rfl, rfl, rfl⟩)
    · rename_i s _ _ _
      by_cases same : s.name = k.name
      · rw [unique s old same] at table ⊢
        cases table
        exact .of_mem changed (List.mem_append_left _ inside)
      · exact .intro (mem_set.mpr (.inl ⟨old, same⟩)) table inside
    · exact .of_mem changed (List.mem_append_right _ (List.mem_singleton_self e))

section

variable {k l : Key} {span : Span}

/-- The first assignment to a name in a table brings the table about. -/
theorem assign_of_missing (missing : es.find? k.name = none) (span : Span) (item : Item) (form : Form) :
    assign [k, l] span item form es =
      some ((), es ++ [(k, none, .table .dotted [(l, some span, item)])]) := by
  change Change.under true _ [k] form es = _
  unfold Change.under
  rw [missing]
  rfl

/-- A table that dotted keys have brought about takes a name that it does not have. -/
theorem assign_of_dotted {k' : Key} {place : Option Span} {inner : Entries}
    (found : es.find? k.name = some (k', place, .table .dotted inner))
    (free : Entries.find? inner l.name = none) (span : Span) (item : Item) (form : Form) :
    assign [k, l] span item form es =
      some ((), es.set k.name place (.table .dotted (inner ++ [(l, some span, item)]))) := by
  have new : Change.insert (l, some span, item) .dotted inner =
      some ((), inner ++ [(l, some span, item)]) := by
    have none : ¬(Entries.find? inner (Entry.name (l, some span, item))).isSome = true := by
      rw [show Entry.name (l, some span, item) = l.name from rfl, free]
      exact Bool.false_ne_true
    unfold Change.insert
    rw [if_neg none]
  change Change.under true _ [k] form es = _
  unfold Change.under
  rw [found]
  exact Option.bind_eq_some_iff.mpr ⟨_, new, rfl⟩

end

/-- In the document there are only tables of dotted keys. -/
def Dotted (es : Entries) : Prop :=
  ∀ s ∈ es, ∃ inner, s.item = .table .dotted inner

/-- A name in a table that nothing is assigned to takes a value. -/
theorem assign_dotted (distinct : (es.map Entry.name).Nodup) (dotted : es.Dotted) {k l : Key}
    (fresh : ∀ x, ¬Assigns es k.name l.name x) (span : Span) (item : Item) (form : Form) :
    ∃ changed : Entries, assign [k, l] span item form es = some ((), changed) ∧ changed.Dotted ∧
      ∀ table name x, Assigns changed table name x ↔
        Assigns es table name x ∨ table = k.name ∧ name = l.name ∧ x = item := by
  cases found : es.find? k.name with
  | none =>
    refine ⟨_, assign_of_missing found span item form, fun s inside => ?_, fun table name x => ?_⟩
    · rcases List.mem_append.mp inside with old | new
      · exact dotted s old
      · rw [List.mem_singleton.mp new]
        exact ⟨_, rfl⟩
    · rw [assigns_append]
      refine or_congr_right ⟨?_, ?_⟩
      · rintro ⟨outside, table, inside⟩
        rw [List.mem_singleton.mp outside] at table ⊢
        cases table
        rw [List.mem_singleton.mp inside]
        exact ⟨rfl, rfl, rfl⟩
      · rintro ⟨rfl, rfl, rfl⟩
        exact .of_mem (List.mem_singleton_self _) (List.mem_singleton_self (l, some span, x))
  | some s =>
    obtain ⟨outside, same⟩ := mem_of_find? found
    obtain ⟨inner, table⟩ := dotted s outside
    obtain ⟨k', place, _⟩ := s
    cases table
    have free : Entries.find? inner l.name = none := by
      rw [find?_eq_none_iff]
      intro present
      obtain ⟨e, inside, named⟩ := List.mem_map.mp present
      refine fresh e.item ?_
      rw [← same, ← named]
      exact .of_mem outside inside
    refine ⟨_, assign_of_dotted found free span item form, fun s inside => ?_, fun table name x => ?_⟩
    · rcases mem_set.mp inside with ⟨old, -⟩ | ⟨e, -, -, rfl⟩
      · exact dotted s old
      · exact ⟨_, rfl⟩
    · rw [← same]
      exact assigns_set distinct outside

end MeshTelemetry.Toml.Entries
