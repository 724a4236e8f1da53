import Mathlib
import MeshTelemetry.Toml.Reader

/-!
# What a TOML document can be

Whatever text is read, every table of the document has each name at most once, at every depth, and its
integers have 64 bits (`proper_of_parse?`). `Item.Proper` is this property, `Yields` says that all a scanner
gives has a property, and `Change.Keeps` that a change of a table keeps it proper.
-/

namespace MeshTelemetry.Toml

/-! ## Proper documents -/

/-- Every table inside has each name at most once, and the integers have 64 bits. -/
inductive Item.Proper : Item → Prop
  | text (s : String) : Proper (.text s)
  | integer {n : Int} (least : -0x8000000000000000 ≤ n) (most : n < 0x8000000000000000) :
    Proper (.integer n)
  | float (x : Float) : Proper (.float x)
  | boolean (b : Bool) : Proper (.boolean b)
  | moment : Proper .moment
  | list (form : ListForm) {elements : List Element} (each : ∀ e ∈ elements, Proper e.2) :
    Proper (.list form elements)
  | table (form : Form) {entries : Entries} (names : (entries.map Entry.name).Nodup)
    (each : ∀ e ∈ entries, Proper e.item) : Proper (.table form entries)

/-- Entries with distinct names and proper items. -/
structure Entries.Proper (es : Entries) : Prop where
  names : (es.map Entry.name).Nodup
  each : ∀ e ∈ es, e.item.Proper

theorem Entries.Proper.table {es : Entries} (proper : es.Proper) (form : Form) :
    (Item.table form es).Proper :=
  .table form proper.names proper.each

theorem Item.Proper.entries {form : Form} {es : Entries} (proper : (Item.table form es).Proper) :
    es.Proper := by
  cases proper with
  | table _ names each => exact ⟨names, each⟩

theorem Item.Proper.elements {form : ListForm} {elements : List Element}
    (proper : (Item.list form elements).Proper) : ∀ e ∈ elements, e.2.Proper := by
  cases proper with
  | list _ each => exact each

namespace Entries

variable {es : Entries} {name : String} {e : Entry}

theorem proper_nil : Proper [] :=
  ⟨List.nodup_nil, fun _ inside => absurd inside List.not_mem_nil⟩

theorem mem_of_find? (found : es.find? name = some e) : e ∈ es ∧ e.name = name :=
  ⟨List.mem_of_find?_eq_some found, by simpa using List.find?_some found⟩

theorem find?_eq_none_iff : es.find? name = none ↔ name ∉ es.map Entry.name := by
  unfold Entries.find?
  rw [List.find?_eq_none]
  simp

theorem Proper.find? (proper : es.Proper) (found : es.find? name = some e) : e.item.Proper :=
  proper.each e (mem_of_find? found).1

/-- A new name can be added. -/
theorem Proper.append (proper : es.Proper) (fresh : es.find? e.name = none) (item : e.item.Proper) :
    Proper (es ++ [e]) where
  names := by
    rw [List.map_append, List.map_singleton]
    refine List.Nodup.append proper.names (List.nodup_singleton _) ?_
    rw [List.disjoint_singleton]
    exact find?_eq_none_iff.mp fresh
  each other inside := by
    rcases List.mem_append.mp inside with old | new
    · exact proper.each other old
    · rw [List.mem_singleton.mp new]
      exact item

theorem map_name_set (es : Entries) (name : String) (span : Option Span) (item : Item) :
    (es.set name span item).map Entry.name = es.map Entry.name := by
  unfold Entries.set
  rw [List.map_map]
  refine List.map_congr_left fun e _ => ?_
  dsimp only [Function.comp]
  split <;> rfl

theorem Proper.set (proper : es.Proper) (name : String) (span : Option Span) {item : Item}
    (fits : item.Proper) : Proper (es.set name span item) where
  names := by
    rw [map_name_set]
    exact proper.names
  each other inside := by
    obtain ⟨e, old, rfl⟩ := List.mem_map.mp inside
    split
    · exact fits
    · exact proper.each e old

theorem Proper.filter (proper : es.Proper) (p : Entry → Bool) : Proper (List.filter p es) where
  names := proper.names.sublist (List.filter_sublist.map Entry.name)
  each e inside := proper.each e (List.mem_filter.mp inside).1

end Entries

/-! ## Changes of a table -/

/-- The change keeps a table proper, and its answer has a property. -/
def Change.Keeps {α : Type} (change : Change α) (P : α → Prop) : Prop :=
  ∀ form es x changed, es.Proper → change form es = some (x, changed) → P x ∧ changed.Proper

section

variable {α : Type} {P : α → Prop}

theorem keeps_insert {e : Entry} (item : e.item.Proper) :
    (Change.insert e).Keeps fun _ => True := by
  intro form es x changed proper run
  unfold Change.insert at run
  split at run
  · cases run
  · rename_i fresh
    cases run
    exact ⟨trivial, proper.append (Option.not_isSome_iff_eq_none.mp fresh) item⟩

/-- A change that keeps tables proper keeps the whole proper when it is made further inside. -/
theorem Change.Keeps.under {change : Change α} (keeps : change.Keeps P) (dotted : Bool)
    (path : List Key) : (Change.under dotted change path).Keeps P := by
  induction path with
  | nil => exact keeps
  | cons k path ih =>
    intro form es x changed proper run
    unfold Change.under at run
    split at run
    · -- A table that is missing on the way is made.
      rename_i fresh
      obtain ⟨⟨y, inner⟩, inside, same⟩ := Option.bind_eq_some_iff.mp run
      cases same
      obtain ⟨holds, kept⟩ := ih _ _ _ _ Entries.proper_nil inside
      exact ⟨holds, proper.append fresh (kept.table _)⟩
    · rename_i found
      split at run
      · obtain ⟨⟨y, inner⟩, inside, same⟩ := Option.bind_eq_some_iff.mp run
        cases same
        obtain ⟨holds, kept⟩ := ih _ _ _ _ (proper.find? found).entries inside
        exact ⟨holds, proper.set _ _ (kept.table _)⟩
      · cases run
    · rename_i span elements found
      split at run
      · rename_i place form inner last
        obtain ⟨⟨y, inner⟩, inside, same⟩ := Option.bind_eq_some_iff.mp run
        cases same
        have each := (proper.find? found).elements
        have old : (Item.table form _).Proper := each _ (List.mem_of_getLast? last)
        obtain ⟨holds, kept⟩ := ih _ _ _ _ old.entries inside
        refine ⟨holds, proper.set _ _ (.list _ fun e among => ?_)⟩
        rcases List.mem_append.mp among with front | back
        · exact each e (List.mem_of_mem_dropLast front)
        · rw [List.mem_singleton.mp back]
          exact kept.table _
      · cases run
    · cases run

theorem keeps_assign (key : List Key) (span : Span) {item : Item} (fits : item.Proper) :
    (assign key span item).Keeps fun _ => True := by
  intro form es x changed proper run
  obtain ⟨⟨path, last⟩, -, run⟩ := Option.bind_eq_some_iff.mp run
  refine Change.Keeps.under (P := fun _ => True) ?_ true path form es x changed proper run
  intro form es x changed proper run
  dsimp only at run
  split at run
  · cases run
  · exact keeps_insert (e := (last, some span, item)) fits form es x changed proper run

theorem keeps_append (last : Key) {element : Element} (fits : element.2.Proper) :
    (Change.append last element).Keeps fun _ => True := by
  intro form es x changed proper run
  unfold Change.append at run
  split at run
  · rename_i found
    cases run
    refine ⟨trivial, proper.set _ _ (.list _ fun e among => ?_)⟩
    rcases List.mem_append.mp among with old | new
    · exact (proper.find? found).elements e old
    · rw [List.mem_singleton.mp new]
      exact fits
  · cases run

theorem keeps_reopen (last : Key) : (Change.reopen last).Keeps Entries.Proper := by
  intro form es x changed proper run
  unfold Change.reopen at run
  split at run
  · cases run
    exact ⟨Entries.proper_nil, proper⟩
  · rename_i found
    cases run
    exact ⟨(proper.find? found).entries, proper.filter _⟩
  · cases run

theorem keeps_provide (last : Key) : (Change.provide last).Keeps Entries.Proper := by
  intro form es x changed proper run
  unfold Change.provide at run
  split at run
  · rename_i fresh
    cases run
    refine ⟨Entries.proper_nil, proper.append fresh (.list _ ?_)⟩
    exact fun _ inside => absurd inside List.not_mem_nil
  · cases run
    exact ⟨Entries.proper_nil, proper⟩
  · cases run

end

/-! ## Documents under construction -/

/-- What has been read is proper so far. -/
structure Draft.Proper (d : Draft) : Prop where
  root : d.root.Proper
  current : d.current.entries.Proper

theorem Draft.proper_empty : Draft.empty.Proper :=
  ⟨Entries.proper_nil, Entries.proper_nil⟩

section

variable {d next : Draft}

theorem Draft.Proper.assign? (proper : d.Proper) {key : List Key} {span : Span} {item : Item}
    (fits : item.Proper) (run : d.assign? key span item = some next) : next.Proper := by
  obtain ⟨⟨_, entries⟩, step, same⟩ := Option.bind_eq_some_iff.mp run
  cases same
  exact ⟨proper.root, (keeps_assign key span fits _ _ _ _ proper.current step).2⟩

theorem Draft.Proper.close? (proper : d.Proper) {whole : Entries} (run : d.close? = some whole) :
    whole.Proper := by
  unfold Draft.close? at run
  dsimp only at run
  split at run
  · cases run
    exact proper.current
  · rename_i path last _
    obtain ⟨⟨_, root⟩, step, same⟩ := Option.bind_eq_some_iff.mp run
    cases same
    have item : (Item.table .headed d.current.entries).Proper := proper.current.table _
    have kept : (if d.current.isElement then
        Change.append last (d.current.span, Item.table .headed d.current.entries)
        else Change.insert (last, d.current.span, Item.table .headed d.current.entries)).Keeps
        fun _ => True := by
      split
      · exact keeps_append last item
      · exact keeps_insert item
    exact (kept.under false path _ _ _ _ proper.root step).2

theorem Draft.Proper.header? (proper : d.Proper) {key : List Key} {isElement : Bool} {span : Span}
    (run : d.header? key isElement span = some next) : next.Proper := by
  obtain ⟨whole, closed, run⟩ := Option.bind_eq_some_iff.mp run
  obtain ⟨⟨path, last⟩, -, run⟩ := Option.bind_eq_some_iff.mp run
  obtain ⟨⟨entries, root⟩, step, same⟩ := Option.bind_eq_some_iff.mp run
  cases same
  have kept : (if isElement then Change.provide last else Change.reopen last).Keeps
      Entries.Proper := by
    split
    · exact keeps_provide last
    · exact keeps_reopen last
  obtain ⟨opened, rest⟩ := kept.under false path _ _ _ _ (proper.close? closed) step
  exact ⟨rest, opened⟩

end

/-! ## What a scanner yields -/

section

variable {α β : Type}

/-- Whatever the scanner gives has the property. -/
def Yields (scan : Scan α) (P : α → Prop) : Prop :=
  ∀ c x rest, scan c = some (x, rest) → P x

theorem yields_any (scan : Scan α) : Yields scan fun _ => True :=
  fun _ _ _ _ => trivial

theorem yields_pure {P : α → Prop} {x : α} (holds : P x) : Yields (pure x) P := by
  intro c y rest run
  cases run
  exact holds

theorem yields_refuse (P : α → Prop) : Yields refuse P := by
  intro c x rest run
  cases run

theorem Yields.bind {scan : Scan α} {next : α → Scan β} {P : α → Prop} {Q : β → Prop}
    (first : Yields scan P) (second : ∀ x, P x → Yields (next x) Q) : Yields (scan >>= next) Q := by
  intro c y rest run
  obtain ⟨⟨x, middle⟩, taken, run⟩ := Option.bind_eq_some_iff.mp run
  exact second x (first c x middle taken) middle y rest run

/-- A step whose outcome does not matter. -/
theorem Yields.after (scan : Scan α) {next : α → Scan β} {Q : β → Prop}
    (second : ∀ x, Yields (next x) Q) : Yields (scan >>= next) Q :=
  (yields_any scan).bind fun x _ => second x

theorem Yields.map {scan : Scan α} {f : α → β} {P : α → Prop} {Q : β → Prop}
    (first : Yields scan P) (holds : ∀ x, P x → Q (f x)) : Yields (f <$> scan) Q := by
  intro c y rest run
  obtain ⟨⟨x, _⟩, taken, same⟩ := Option.bind_eq_some_iff.mp run
  cases same
  exact holds x (first c x rest taken)

theorem Yields.ite {p : Prop} [Decidable p] {first second : Scan α} {P : α → Prop}
    (yes : Yields first P) (no : Yields second P) : Yields (if p then first else second) P := by
  split
  · exact yes
  · exact no

theorem Yields.orElse {first second : Scan α} {P : α → Prop} (yes : Yields first P)
    (no : Yields second P) : Yields (first <|> second) P := by
  intro c x rest run
  change (first c <|> second c) = some (x, rest) at run
  cases taken : first c with
  | none =>
    rw [taken] at run
    exact no c x rest run
  | some p =>
    rw [taken] at run
    cases run
    exact yes c x rest taken

theorem Yields.located {scan : Scan α} {P : α → Prop} (yields : Yields scan P) :
    Yields (located scan) fun x => P x.1 := by
  intro c y rest run
  obtain ⟨⟨x, _⟩, taken, same⟩ := Option.bind_eq_some_iff.mp run
  cases same
  exact yields c x rest taken

theorem yields_settle {result : Option α} {P : α → Prop} (holds : ∀ x, result = some x → P x) :
    Yields (settle result) P := by
  intro c x rest run
  obtain ⟨y, here, same⟩ := Option.map_eq_some_iff.mp run
  cases same
  exact holds x here

end

/-! ## Values -/

theorem yields_narrow (n : Int) : Yields (narrow n) fun n => (Item.integer n).Proper := by
  unfold narrow
  split
  · rename_i fits
    exact yields_pure (.integer fits.1 fits.2)
  · exact yields_refuse _

theorem yields_integer (bound : Nat) : Yields (integer bound) fun n => (Item.integer n).Proper := by
  have based (base : Nat) : Yields (basedInteger base bound) fun n => (Item.integer n).Proper :=
    .after _ fun _ => yields_narrow _
  refine .after _ fun _ => .ite (based 16) ?_
  refine .after _ fun _ => .ite (based 8) ?_
  refine .after _ fun _ => .ite (based 2) ?_
  exact .after _ fun _ => yields_narrow _

theorem yields_scalar (bound : Nat) : Yields (scalar bound) Item.Proper := by
  refine .after _ fun next => ?_
  cases next with
  | none => exact yields_refuse _
  | some c =>
    refine .ite ((yields_any _).map fun s _ => .text s) ?_
    refine .ite ((yields_any _).map fun b _ => .boolean b) ?_
    refine .orElse (.after _ fun _ => yields_pure .moment) ?_
    refine .orElse ((yields_any _).map fun x _ => .float x) ?_
    refine .orElse ((yields_any _).map fun x _ => .float x) ?_
    exact (yields_integer bound).map fun n fits => fits

section

variable {value : Scan (Item × Span)} (yields : Yields value fun x => x.1.Proper) (bound : Nat)

include yields

theorem yields_listBody {taken : List Element} (before : ∀ e ∈ taken, e.2.Proper) (count : Nat) :
    Yields (listBody bound value taken count) fun elements => ∀ e ∈ elements, e.2.Proper := by
  induction count generalizing taken with
  | zero => exact yields_refuse _
  | succ count ih =>
    refine .after _ fun _ => .after _ fun _ => .ite (yields_pure before) ?_
    refine yields.bind fun x fits => .after _ fun _ => .after _ fun _ => ?_
    have longer : ∀ e ∈ taken ++ [(some x.2, x.1)], e.2.Proper := by
      intro e inside
      rcases List.mem_append.mp inside with old | new
      · exact before e old
      · rw [List.mem_singleton.mp new]
        exact fits
    exact .ite (ih longer) (.after _ fun _ => yields_pure longer)

theorem yields_assignment : Yields (assignment bound value) fun x => x.2.1.Proper :=
  .after _ fun _ => .after _ fun _ => .after _ fun _ => yields.bind fun _ fits => yields_pure fits

theorem yields_tableBody {taken : Entries} (before : taken.Proper) (count : Nat) :
    Yields (tableBody bound value taken count) Entries.Proper := by
  induction count generalizing taken with
  | zero => exact yields_refuse _
  | succ count ih =>
    refine (yields_assignment yields bound).bind fun x fits => ?_
    have added : Yields (settle (assign x.1 x.2.2 x.2.1 .braced taken)) fun r => r.2.Proper :=
      yields_settle fun r run => (keeps_assign _ _ fits _ _ _ _ before run).2
    refine added.bind fun r proper => .after _ fun _ => .after _ fun _ => ?_
    exact .ite (ih proper) (.after _ fun _ => yields_pure proper)

theorem yields_table : Yields (table bound value) Entries.Proper :=
  .after _ fun _ => .after _ fun _ =>
    .ite (yields_pure Entries.proper_nil) (yields_tableBody yields bound Entries.proper_nil bound)

end

theorem yields_value (bound depth : Nat) : Yields (value bound depth) fun x => x.1.Proper := by
  induction depth with
  | zero => exact (yields_scalar bound).located
  | succ depth ih =>
    refine Yields.located (P := Item.Proper) (.after _ fun _ => .ite ?_ (.after _ fun _ => .ite ?_ ?_))
    · refine (yields_listBody ih bound ?_ bound).map fun elements each => .list _ each
      exact fun _ inside => absurd inside List.not_mem_nil
    · exact (yields_table ih bound).map fun entries proper => proper.table _
    · exact yields_scalar bound

/-! ## Whole documents -/

theorem yields_header (bound : Nat) {d : Draft} (proper : d.Proper) :
    Yields (header bound d) Draft.Proper :=
  .after _ fun _ => .after _ fun _ => yields_settle fun _ run => proper.header? run

theorem yields_setting (bound : Nat) {d : Draft} (proper : d.Proper) :
    Yields (setting bound d) Draft.Proper :=
  (yields_assignment (yields_value bound nestingLimit) bound).bind fun _ fits =>
    .after _ fun _ => yields_settle fun _ run => proper.assign? fits run

theorem yields_statements (bound : Nat) {d : Draft} (proper : d.Proper) (count : Nat) :
    Yields (statements bound d count) Draft.Proper := by
  induction count generalizing d with
  | zero => exact yields_refuse _
  | succ count ih =>
    refine .after _ fun _ => .after _ fun next => ?_
    cases next with
    | none => exact yields_pure proper
    | some c =>
      refine .ite (.after _ fun _ => .after _ fun _ => ih proper) ?_
      refine .ite ((yields_header bound proper).bind fun _ => ih) ?_
      refine .after _ fun _ => .ite (ih proper) ?_
      exact (yields_setting bound proper).bind fun _ => ih

/-- A document that a text holds has each name at most once in each of its tables. -/
theorem proper_of_parse? {text : String} {entries : Entries} (read : parse? text = some entries) :
    entries.Proper := by
  obtain ⟨⟨d, c⟩, scanned, closed⟩ := Option.bind_eq_some_iff.mp read
  have proper : Yields (document (text.toList.length + 1)) Draft.Proper :=
    .after _ fun _ => yields_statements _ Draft.proper_empty _
  exact (proper _ _ _ scanned).close? closed

end MeshTelemetry.Toml
