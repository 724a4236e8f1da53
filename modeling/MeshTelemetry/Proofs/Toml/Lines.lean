import MeshTelemetry.Proofs.Toml.Assigns
import MeshTelemetry.Proofs.Toml.Words

/-!
# Documents of one line for each value

Every choice of values for names in tables has a text: a line for each of them, in any order, holds a
document that assigns these values and nothing else (`exists_parse?_lines`). `Draft.HasRead` says what the
document under construction is behind some lines; `scans_setting` reads one more line, and `scans_statements`
all of them.
-/

namespace MeshTelemetry.Toml

/-! ## Lines -/

/-- A line that assigns a value to a name in a table. -/
structure Line where
  table : String
  name : String
  value : Plain
deriving Repr, DecidableEq

namespace Line

/-- Both names need no quotes, and a number has 64 bits. -/
structure IsRegular (l : Line) : Prop where
  table : IsBareName l.table
  name : IsBareName l.name
  small : l.value.IsSmall

/-- The two names with a point between them, an equals sign and the value. -/
def written (l : Line) : List Char :=
  l.table.toList ++ '.' :: (l.name.toList ++ '=' :: (l.value.written ++ ['\n']))

/-- What the line assigns a value to. -/
def place (l : Line) : String × String :=
  (l.table, l.name)

/-- One of the lines assigns the item to the name in the table. -/
def Assign (lines : List Line) (table name : String) (item : Item) : Prop :=
  ∃ l ∈ lines, l.place = (table, name) ∧ l.value.item = item

theorem length_written_pos (l : Line) : 0 < l.written.length := by
  simp only [written, List.length_append, List.length_cons]
  omega

theorem length_value_lt (l : Line) : l.value.written.length < l.written.length := by
  simp only [written, List.length_append, List.length_cons]
  omega

theorem written_append (l : Line) (rest : List Char) :
    l.written ++ rest =
      l.table.toList ++ '.' :: (l.name.toList ++ '=' :: (l.value.written ++ '\n' :: rest)) := by
  simp [written]

end Line

/-- The lines have been read, and nothing else. -/
structure Draft.HasRead (d : Draft) (lines : List Line) : Prop where
  proper : d.Proper
  outside : d.current.path = []
  dotted : d.current.entries.Dotted
  assigns : ∀ table name item,
    d.current.entries.Assigns table name item ↔ Line.Assign lines table name item

theorem Draft.hasRead_empty : Draft.empty.HasRead [] where
  proper := Draft.proper_empty
  outside := rfl
  dotted _ inside := absurd inside List.not_mem_nil
  assigns table name item := by
    refine iff_of_false Entries.not_assigns_nil ?_
    rintro ⟨l, inside, -⟩
    exact List.not_mem_nil inside

section

variable {d : Draft} {lines : List Line} {l : Line} {bound : Nat}

theorem Plain.IsSmall.proper {v : Plain} (small : v.IsSmall) : v.item.Proper := by
  cases v with
  | text s => exact .text s
  | count n =>
    have small : n < 0x8000000000000000 := small
    exact .integer (by omega) (by omega)
  | switch b => exact .boolean b

/-- A line that assigns a value to something new. -/
theorem Draft.HasRead.assign? (read : d.HasRead lines) (small : l.value.IsSmall)
    (fresh : l.place ∉ lines.map Line.place) {k m : Key} (outer : k.name = l.table)
    (inner : m.name = l.name) (span : Span) :
    ∃ next, d.assign? [k, m] span l.value.item = some next ∧ next.HasRead (lines ++ [l]) := by
  have unassigned : ∀ x, ¬d.current.entries.Assigns k.name m.name x := by
    intro x assigned
    obtain ⟨other, before, same, -⟩ := (read.assigns _ _ _).mp assigned
    refine fresh (List.mem_map.mpr ⟨other, before, ?_⟩)
    rw [same, outer, inner]
    rfl
  obtain ⟨changed, step, dotted, assigns⟩ := Entries.assign_dotted read.proper.current.names
    read.dotted unassigned span l.value.item .headed
  have run : d.assign? [k, m] span l.value.item = some _ := Option.bind_eq_some_iff.mpr ⟨_, step, rfl⟩
  refine ⟨_, run, read.proper.assign? small.proper run, read.outside, dotted, fun table name item => ?_⟩
  rw [assigns, read.assigns, outer, inner]
  simp only [Line.Assign, Line.place, List.mem_append, List.mem_singleton, or_and_right, exists_or,
    exists_eq_left, Prod.mk.injEq]
  refine or_congr_right ⟨?_, ?_⟩
  · rintro ⟨rfl, rfl, rfl⟩
    exact ⟨⟨rfl, rfl⟩, rfl⟩
  · rintro ⟨⟨rfl, rfl⟩, rfl⟩
    exact ⟨rfl, rfl, rfl⟩

/-- Without headers the open table is the whole document. -/
theorem Draft.HasRead.close? (read : d.HasRead lines) : d.close? = some d.current.entries := by
  unfold Draft.close?
  dsimp only
  rw [read.outside]
  rfl

theorem scans_settle {α : Type} {result : Option α} {x : α} {P : α → Prop} (some : result = some x)
    (holds : P x) (text : List Char) : Scans (settle result) text text P :=
  fun offset => ⟨x, offset, by rw [settle, some]; rfl, holds⟩

/-- One line. -/
theorem scans_setting (read : d.HasRead lines) (regular : l.IsRegular)
    (fresh : l.place ∉ lines.map Line.place) (room : l.written.length ≤ bound) (rest : List Char) :
    Scans (setting bound d) (l.written ++ rest) rest (Draft.HasRead · (lines ++ [l])) := by
  have words : Scans (assignment bound (value bound nestingLimit)) (l.written ++ rest) ('\n' :: rest)
      fun x => ∃ k m : Key, x.1 = [k, m] ∧ k.name = l.table ∧ m.name = l.name ∧
        x.2.1 = l.value.item := by
    rw [l.written_append]
    refine (scans_key regular.table regular.name bound 77 _).bind ?_
    rintro _ ⟨k, m, rfl, outer, inner⟩
    refine (scans_exactly ['='] _).bind fun _ _ => ?_
    refine (scans_blanks (l.value.ends_blank _)).bind fun _ _ => ?_
    have enough := Nat.lt_of_lt_of_le l.length_value_lt room
    refine (scans_value regular.small enough 78 rest).bind fun x same => ?_
    exact scans_pure ⟨k, m, rfl, outer, inner, same⟩
  refine words.bind ?_
  rintro ⟨_, _, span⟩ ⟨k, m, rfl, outer, inner, rfl⟩
  refine (scans_statementEnd rest).bind fun _ _ => ?_
  obtain ⟨next, run, all⟩ := read.assign? regular.small fresh outer inner span
  exact scans_settle run all rest

/-- A line begins with a character that needs no quotes. -/
theorem Line.IsRegular.exists_written_eq_cons (regular : l.IsRegular) (rest : List Char) :
    ∃ c more, l.written ++ rest = c :: more ∧ isBare c = true := by
  obtain ⟨c, more, front⟩ := List.exists_cons_of_ne_nil regular.table.present
  have first := regular.table.bare c (by simp [front])
  exact ⟨c, more ++ '.' :: _, by rw [l.written_append, front]; rfl, first⟩

/-- All lines up to the end of the text. -/
theorem scans_statements {more : List Line} (read : d.HasRead lines)
    (regular : ∀ l ∈ more, l.IsRegular) (distinct : ((lines ++ more).map Line.place).Nodup)
    (room : ∀ l ∈ more, l.written.length ≤ bound) {count : Nat} (enough : more.length < count) :
    Scans (statements bound d count) (more.flatMap Line.written) []
      (Draft.HasRead · (lines ++ more)) := by
  induction more generalizing d lines count with
  | nil =>
    obtain ⟨count, rfl⟩ := Nat.exists_eq_add_one.mpr enough
    refine (scans_blanks (Text.ends_nil _)).bind fun _ _ => ?_
    refine (scans_look _).andThen ?_
    rw [List.append_nil]
    exact scans_pure read
  | cons l more ih =>
    obtain ⟨count, rfl⟩ := Nat.exists_eq_add_one.mpr (Nat.zero_lt_of_lt enough)
    rw [List.forall_mem_cons] at regular room
    rw [List.flatMap_cons]
    have fresh : l.place ∉ lines.map Line.place := by
      rw [List.map_append, List.nodup_append] at distinct
      intro before
      exact distinct.2.2 _ before _ (List.mem_map_of_mem List.mem_cons_self) rfl
    have line := scans_setting read regular.1 fresh room.1 (more.flatMap Line.written)
    obtain ⟨c, left, front, bare⟩ := regular.1.exists_written_eq_cons (more.flatMap Line.written)
    rw [front] at line ⊢
    have other (x : Char) (notBare : isBare x = false) : x ≠ c := ne_of_class bare notBare
    refine (scans_blanks (.cons (isBlank_of_isBare bare) _)).bind fun _ _ => ?_
    refine (scans_look _).andThen ?_
    dsimp only [List.head?_cons]
    rw [if_neg (other '#' (by decide)).symm, if_neg (other '[' (by decide)).symm]
    refine (scans_lineBreak_other (other '\n' (by decide)) (other '\r' (by decide)) _).andThen ?_
    refine line.bind fun next all => ?_
    rw [List.append_cons] at distinct ⊢
    exact ih all regular.2 distinct room.2 (Nat.lt_of_succ_lt_succ enough)

end

/-- Whatever values are to stand under which names of tables, a line for each of them, in any order, holds a
document that assigns them and nothing else. -/
theorem exists_parse?_lines {lines : List Line} (regular : ∀ l ∈ lines, l.IsRegular)
    (distinct : (lines.map Line.place).Nodup) :
    ∃ entries, parse? (String.ofList (lines.flatMap Line.written)) = some entries ∧
      (∀ s ∈ entries, ∃ form inner, s.item = .table form inner) ∧
      ∀ table name item, entries.Assigns table name item ↔ Line.Assign lines table name item := by
  have length := List.length_flatMap (l := lines) (f := Line.written)
  have room : ∀ l ∈ lines, l.written.length ≤ (lines.flatMap Line.written).length + 1 := by
    intro l inside
    rw [length]
    exact Nat.le_succ_of_le (List.le_sum_of_mem (List.mem_map_of_mem inside))
  have enough : lines.length < (lines.flatMap Line.written).length + 1 := by
    rw [length, Nat.lt_succ_iff, ← List.length_map (fun l => l.written.length)]
    refine List.length_le_sum_of_one_le _ fun n among => ?_
    obtain ⟨l, -, rfl⟩ := List.mem_map.mp among
    exact l.length_written_pos
  have all := scans_statements Draft.hasRead_empty regular distinct room enough
  have mark : ['\ufeff'].isPrefixOf (lines.flatMap Line.written) = false := by
    cases lines with
    | nil => rfl
    | cons l more =>
      obtain ⟨c, left, front, bare⟩ :=
        (regular l List.mem_cons_self).exists_written_eq_cons (more.flatMap Line.written)
      rw [List.flatMap_cons, front]
      exact isPrefixOf_cons_of_ne (ne_of_class bare (by decide)) _ _
  have whole : Scans (document _) (lines.flatMap Line.written) [] (Draft.HasRead · lines) :=
    (scans_accept_other mark).bind fun _ _ => all
  obtain ⟨d, stop, run, read⟩ := whole 0
  refine ⟨d.current.entries, ?_, fun s inside => ?_, read.assigns⟩
  · unfold parse?
    rw [String.toList_ofList]
    exact Option.bind_eq_some_iff.mpr ⟨_, run, read.close?⟩
  · obtain ⟨inner, table⟩ := read.dotted s inside
    exact ⟨_, inner, table⟩

/-- Lines for all names in tables that items are chosen for. -/
theorem exists_lines {places : List (String × String)} (distinct : places.Nodup)
    (bare : ∀ p ∈ places, IsBareName p.1 ∧ IsBareName p.2) {chosen : String → String → Option Item}
    (words : ∀ p ∈ places, ∀ item, chosen p.1 p.2 = some item → ∃ v : Plain, v.IsSmall ∧ v.item = item) :
    ∃ lines : List Line, (∀ l ∈ lines, l.IsRegular) ∧ (lines.map Line.place).Nodup ∧
      ∀ table name item, Line.Assign lines table name item ↔
        (table, name) ∈ places ∧ chosen table name = some item := by
  induction places with
  | nil =>
    refine ⟨[], by simp, List.nodup_nil, fun table name item => iff_of_false ?_ ?_⟩
    · rintro ⟨l, inside, -⟩
      exact List.not_mem_nil inside
    · exact fun among => List.not_mem_nil among.1
  | cons p places ih =>
    rw [List.forall_mem_cons] at bare words
    rw [List.nodup_cons] at distinct
    obtain ⟨lines, regular, once, assigns⟩ := ih distinct.2 bare.2 words.2
    cases choice : chosen p.1 p.2 with
    | none =>
      refine ⟨lines, regular, once, fun table name item => ?_⟩
      rw [assigns, List.mem_cons]
      refine and_congr_left fun given => ⟨.inr, fun among => among.resolve_left ?_⟩
      rintro rfl
      rw [choice] at given
      cases given
    | some x =>
      obtain ⟨v, small, rfl⟩ := words.1 x choice
      refine ⟨⟨p.1, p.2, v⟩ :: lines, ?_, ?_, fun table name item => ?_⟩
      · exact List.forall_mem_cons.mpr ⟨⟨bare.1.1, bare.1.2, small⟩, regular⟩
      · rw [List.map_cons, List.nodup_cons]
        refine ⟨fun before => ?_, once⟩
        obtain ⟨l, inside, same⟩ := List.mem_map.mp before
        exact distinct.1 ((assigns p.1 p.2 l.value.item).mp ⟨l, inside, same, rfl⟩).1
      · rw [Line.Assign, List.exists_mem_cons_iff, ← Line.Assign, assigns, List.mem_cons, or_and_right]
        refine or_congr_left ⟨?_, ?_⟩
        · rintro ⟨same, rfl⟩
          have same : p = (table, name) := same
          rw [same] at choice
          exact ⟨same.symm, choice⟩
        · rintro ⟨rfl, given⟩
          exact ⟨rfl, Option.some.inj (choice.symm.trans given)⟩

/-- Whatever is chosen for names in tables, some document assigns exactly that. -/
theorem exists_parse?_assigns {places : List (String × String)} (distinct : places.Nodup)
    (bare : ∀ p ∈ places, IsBareName p.1 ∧ IsBareName p.2) (chosen : String → String → Option Item)
    (words : ∀ p ∈ places, ∀ item, chosen p.1 p.2 = some item → ∃ v : Plain, v.IsSmall ∧ v.item = item) :
    ∃ text entries, parse? text = some entries ∧
      (∀ s ∈ entries, ∃ form inner, s.item = .table form inner) ∧
      ∀ table name item, entries.Assigns table name item ↔
        (table, name) ∈ places ∧ chosen table name = some item := by
  obtain ⟨lines, regular, once, lined⟩ := exists_lines distinct bare words
  obtain ⟨entries, read, tables, assigns⟩ := exists_parse?_lines regular once
  exact ⟨_, entries, read, tables, fun table name item => (assigns table name item).trans
    (lined table name item)⟩

end MeshTelemetry.Toml
