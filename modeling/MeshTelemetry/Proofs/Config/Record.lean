import MeshTelemetry.Config.Record
import MeshTelemetry.Proofs.Toml.Proper

/-!
# Reading a record from a table

A field makes of a record either another one, in which only the part of that name has changed, or a
complaint. `Reads` says which of both, and what has become of the part; nothing else is used of a field. What
it says of each field then holds of a whole table, in whatever order the entries stand, because no name occurs
twice (`readEntries_of_fit`, `readEntries_of_unfit`).
-/

namespace MeshTelemetry.Config

open Toml (Item Entry Entries)

variable {α σ γ : Type}

/-- How a field of a record is read. The parts of a record are seen through `view`. Of the items that are
regular for its name, the field takes those that fit, and then its part is what the item denotes. -/
structure Reads (view : σ → String → γ) (regular fits : String → Item → Prop)
    (denotes : String → Item → γ → Prop) (f : Setting σ) : Prop where
  accepts : ∀ item, regular f.name item → fits f.name item → ∀ record,
    ∃ changed, f.put record item = .ok changed ∧ denotes f.name item (view changed f.name) ∧
      ∀ name, name ≠ f.name → view changed name = view record name
  refuses : ∀ item, regular f.name item → ¬fits f.name item → ∀ record,
    ∃ e, f.put record item = .error e

section

variable {view : σ → String → γ} {regular fits : String → Item → Prop}
  {denotes : String → Item → γ → Prop}

/-- A field that puts what is read of an item into its place. -/
theorem reads_of_map {f : Setting σ} {read : ItemReader α} {set : σ → α → σ}
    (put : ∀ record item, f.put record item = (read item).map (set record))
    (elsewhere : ∀ record x name, name ≠ f.name → view (set record x) name = view record name)
    (accepts : ∀ item, regular f.name item → fits f.name item →
      ∃ x, read item = .ok x ∧ ∀ record, denotes f.name item (view (set record x) f.name))
    (refuses : ∀ item, regular f.name item → ¬fits f.name item → ∃ e, read item = .error e) :
    Reads view regular fits denotes f where
  accepts item normal fit record := by
    obtain ⟨x, read, denoted⟩ := accepts item normal fit
    exact ⟨set record x, by rw [put, read]; rfl, denoted record, elsewhere record x⟩
  refuses item normal unfit record := by
    obtain ⟨e, read⟩ := refuses item normal unfit
    exact ⟨e, by rw [put, read]; rfl⟩

variable {fields : List (Setting σ)} {e : Entry} {entries : Entries}

/-- Reading one entry. -/
def readEntry (fields : List (Setting σ)) (record : σ) (e : Entry) : Except Unfit σ :=
  match fields.find? fun f => f.name = e.name with
  | none => .ok record
  | some f => placed (some e.span) (f.put record e.item)

theorem readEntries_cons (record : σ) (e : Entry) (entries : Entries) :
    readEntries fields record (e :: entries) = (do
      let record ← readEntry fields record e
      readEntries fields record entries) := by
  rw [readEntries, List.foldlM_cons]
  rfl

/-- An entry whose name is that of no field is passed over. -/
theorem readEntry_of_unknown (unknown : e.name ∉ fields.map Setting.name) (record : σ) :
    readEntry fields record e = .ok record := by
  have none : fields.find? (fun f => f.name = e.name) = none := by
    rw [List.find?_eq_none]
    intro f inside same
    exact unknown (List.mem_map.mpr ⟨f, inside, of_decide_eq_true same⟩)
  unfold readEntry
  rw [none]

/-- An entry of a known name is put by a field of this name. -/
theorem readEntry_of_known (known : e.name ∈ fields.map Setting.name) :
    ∃ f ∈ fields, f.name = e.name ∧
      ∀ record, readEntry fields record e = placed (some e.span) (f.put record e.item) := by
  obtain ⟨g, among, same⟩ := List.mem_map.mp known
  have present : (fields.find? fun f => f.name = e.name).isSome :=
    List.find?_isSome.mpr ⟨g, among, decide_eq_true same⟩
  obtain ⟨f, found⟩ := Option.isSome_iff_exists.mp present
  refine ⟨f, List.mem_of_find?_eq_some found, ?_, fun record => ?_⟩
  · simpa using List.find?_some found
  · unfold readEntry
    rw [found]

/-- A table whose known entries all fit is read. Each of them has become its part of the record, and the
other parts are as before. -/
theorem readEntries_of_fit (reads : ∀ f ∈ fields, Reads view regular fits denotes f)
    (distinct : (entries.map Entry.name).Nodup)
    (all : ∀ e ∈ entries, e.name ∈ fields.map Setting.name →
      regular e.name e.item ∧ fits e.name e.item) (record : σ) :
    ∃ final, readEntries fields record entries = .ok final ∧
      (∀ e ∈ entries, e.name ∈ fields.map Setting.name → denotes e.name e.item (view final e.name)) ∧
      ∀ name, name ∉ entries.map Entry.name → view final name = view record name := by
  induction entries generalizing record with
  | nil => exact ⟨record, rfl, by simp, fun _ _ => rfl⟩
  | cons e entries ih =>
    rw [List.map_cons, List.nodup_cons] at distinct
    rw [List.forall_mem_cons] at all
    obtain ⟨fresh, distinct⟩ := distinct
    obtain ⟨first, rest⟩ := all
    by_cases known : e.name ∈ fields.map Setting.name
    · obtain ⟨f, inside, same, step⟩ := readEntry_of_known known
      obtain ⟨regular, fit⟩ := first known
      rw [← same] at regular fit
      obtain ⟨changed, put, denoted, others⟩ := (reads f inside).accepts e.item regular fit record
      obtain ⟨final, read, given, kept⟩ := ih distinct rest changed
      refine ⟨final, ?_, ?_, fun name outside => ?_⟩
      · rw [readEntries_cons, step, put]
        exact read
      · rw [List.forall_mem_cons]
        refine ⟨fun _ => ?_, given⟩
        rw [kept e.name fresh, ← same]
        exact denoted
      · rw [List.map_cons, List.mem_cons, not_or] at outside
        rw [kept name outside.2, others name (same ▸ outside.1)]
    · obtain ⟨final, read, given, kept⟩ := ih distinct rest record
      refine ⟨final, ?_, ?_, fun name outside => ?_⟩
      · rw [readEntries_cons, readEntry_of_unknown known]
        exact read
      · rw [List.forall_mem_cons]
        exact ⟨fun absent => absurd absent known, given⟩
      · rw [List.map_cons, List.mem_cons, not_or] at outside
        exact kept name outside.2

/-- A table with a known entry that does not fit is not read. -/
theorem readEntries_of_unfit (reads : ∀ f ∈ fields, Reads view regular fits denotes f)
    (inside : e ∈ entries) (known : e.name ∈ fields.map Setting.name) (normal : regular e.name e.item)
    (unfit : ¬fits e.name e.item) (record : σ) :
    ∃ fault, readEntries fields record entries = .error fault := by
  induction entries generalizing record with
  | nil => cases inside
  | cons first entries ih =>
    rw [readEntries_cons]
    rcases List.mem_cons.mp inside with rfl | later
    · obtain ⟨f, among, same, step⟩ := readEntry_of_known known
      rw [← same] at normal unfit
      obtain ⟨fault, put⟩ := (reads f among).refuses e.item normal unfit record
      rw [step, put]
      exact ⟨_, rfl⟩
    · cases readEntry fields record first with
      | error fault => exact ⟨fault, rfl⟩
      | ok changed => exact ih later changed

end

end MeshTelemetry.Config
