import MeshTelemetry.Config.Load
import MeshTelemetry.Proofs.Config.Record
import MeshTelemetry.Proofs.Toml.Lines

/-!
# The settings of a configuration text

`Config.settings` lists the settings with the kinds of their values, and `Config.shown` is the value that a
configuration has for each of them. `Config.Gives` says what a text assigns to them. Each setting has the item
that is chosen for it, if it is a value of the right kind; without one the setting is as it is without any
configuration (`Config.parse_settings`).
-/

namespace MeshTelemetry

open Toml (Item Entry Entries Form)

namespace Config

/-! ## Kinds of values -/

/-- The kinds of values that settings have. -/
inductive Kind
  | text
  | count
  | switch
deriving Repr, DecidableEq

/-- The items that are values of a kind. A count is an integer of 64 bits that is not negative. -/
def Kind.Admits : Kind → Item → Prop
  | .text, item => ∃ s, item = .text s
  | .count, item => ∃ n : Nat, n < 0x8000000000000000 ∧ item = .integer n
  | .switch, item => ∃ b, item = .boolean b

section

variable {α : Type}

/-- A reader takes the values of a kind, and of other items it complains. -/
structure ReadsKind (read : ItemReader α) (write : α → Item) (kind : Kind) : Prop where
  accepts : ∀ item, kind.Admits item → ∃ x, read item = .ok x ∧ write x = item
  refuses : ∀ item, item.Proper → ¬kind.Admits item → ∃ e, read item = .error e

theorem readsKind_text : ReadsKind readText .text .text where
  accepts := by
    rintro _ ⟨s, rfl⟩
    exact ⟨s, rfl, rfl⟩
  refuses item _ other := by
    cases item with
    | text s => exact absurd ⟨s, rfl⟩ other
    | _ => exact ⟨_, rfl⟩

theorem readsKind_path : ReadsKind readPath .text .text where
  accepts := by
    rintro _ ⟨s, rfl⟩
    exact ⟨s, rfl, rfl⟩
  refuses item _ other := by
    cases item with
    | text s => exact absurd ⟨s, rfl⟩ other
    | _ => exact ⟨_, rfl⟩

theorem readsKind_switch : ReadsKind readSwitch .boolean .switch where
  accepts := by
    rintro _ ⟨b, rfl⟩
    exact ⟨b, rfl, rfl⟩
  refuses item _ other := by
    cases item with
    | boolean b => exact absurd ⟨b, rfl⟩ other
    | _ => exact ⟨_, rfl⟩

theorem readsKind_count : ReadsKind readCount (fun n => .integer n) .count where
  accepts := by
    rintro _ ⟨n, -, rfl⟩
    exact ⟨n, by simp [readCount], rfl⟩
  refuses item proper other := by
    cases proper with
    | @integer n _ most =>
      have negative : ¬0 ≤ n := by
        intro positive
        obtain ⟨m, rfl⟩ := Int.eq_ofNat_of_zero_le positive
        exact other ⟨m, by omega, rfl⟩
      exact ⟨_, by rw [readCount, if_neg negative]⟩
    | _ => exact ⟨_, rfl⟩

end

/-! ## All settings -/

/-- The settings: the table that they stand in, the name, and the kind of value. -/
def settings : List (String × String × Kind) :=
  [("collector", "interface", .text), ("collector", "interval_secs", .count),
    ("collector", "listen_address", .text), ("collector", "request_address", .text),
    ("sink", "enabled", .switch),
    ("logging", "directory", .text), ("logging", "level", .text), ("logging", "files", .switch)]

/-- The item fits the setting of a name in a table, if there is one. -/
def Fits (table name : String) (item : Item) : Prop :=
  ∀ kind, (table, name, kind) ∈ settings → kind.Admits item

end Config

/-- The values of settings as items of a document; none where a setting has no value. -/
def CollectorConfig.shown (c : CollectorConfig) : String → Option Item
  | "interface" => some (.text c.interface)
  | "interval_secs" => some (.integer c.intervalSeconds)
  | "listen_address" => some (.text c.listenAddress)
  | "request_address" => c.requestTarget.map .text
  | _ => none

def SinkConfig.shown (c : SinkConfig) : String → Option Item
  | "enabled" => some (.boolean c.enabled)
  | _ => none

def LoggingConfig.shown (c : LoggingConfig) : String → Option Item
  | "directory" => some (.text c.directory)
  | "level" => some (.text c.level)
  | "files" => some (.boolean c.files)
  | _ => none

def Config.shown (c : Config) : String → String → Option Item
  | "collector" => c.collector.shown
  | "sink" => c.sink.shown
  | "logging" => c.logging.shown
  | _ => fun _ => none

namespace Config

/-! ## Fields of a section -/

/-- A part of a record is the item that stands for it. -/
def IsItem (_ : String) (item : Item) (part : Option Item) : Prop :=
  part = some item

section

variable {σ α : Type} {view : σ → String → Option Item}

/-- A field that takes the values of the kind of its setting. -/
theorem reads_of_kind {f : Setting σ} {table : String} {kind : Kind} {read : ItemReader α}
    {write : α → Item} (reads : ReadsKind read write kind)
    (known : ∀ other, (table, f.name, other) ∈ settings ↔ other = kind) {set : σ → α → σ}
    (put : ∀ record item, f.put record item = (read item).map (set record))
    (here : ∀ record x, view (set record x) f.name = some (write x))
    (elsewhere : ∀ record x name, name ≠ f.name → view (set record x) name = view record name) :
    Reads view (fun _ => Item.Proper) (Fits table) IsItem f := by
  refine reads_of_map put elsewhere (fun item _ fit => ?_) fun item proper unfit => ?_
  · obtain ⟨x, read, written⟩ := reads.accepts item (fit kind ((known kind).mpr rfl))
    exact ⟨x, read, fun record => (here record x).trans (congrArg some written)⟩
  · refine reads.refuses item proper fun admitted => unfit fun other among => ?_
    rwa [(known other).mp among]

end

theorem reads_collector : ∀ f ∈ CollectorConfig.fields,
    Reads CollectorConfig.shown (fun _ => Item.Proper) (Fits "collector") IsItem f := by
  unfold CollectorConfig.fields
  simp only [List.forall_mem_cons]
  refine ⟨reads_of_kind readsKind_text (by simp [settings]) (fun _ _ => rfl) (fun _ _ => rfl) ?_,
    reads_of_kind readsKind_count (by simp [settings]) (fun _ _ => rfl) (fun _ _ => rfl) ?_,
    reads_of_kind readsKind_text (by simp [settings]) (fun _ _ => rfl) (fun _ _ => rfl) ?_,
    reads_of_kind readsKind_text (by simp [settings]) (fun _ _ => rfl) (fun _ _ => rfl) ?_,
    List.forall_mem_nil _⟩
  all_goals
    -- The field stands in a row of `shown`, and no other row has changed.
    intro record x name other
    unfold CollectorConfig.shown
    split <;> trivial

theorem reads_sink : ∀ f ∈ SinkConfig.fields,
    Reads SinkConfig.shown (fun _ => Item.Proper) (Fits "sink") IsItem f := by
  unfold SinkConfig.fields
  simp only [List.forall_mem_cons]
  refine ⟨?_, List.forall_mem_nil _⟩
  refine reads_of_kind readsKind_switch (by simp [settings]) (fun _ _ => rfl) (fun _ _ => rfl) ?_
  intro record x name other
  unfold SinkConfig.shown
  split <;> trivial

theorem reads_logging : ∀ f ∈ LoggingConfig.fields,
    Reads LoggingConfig.shown (fun _ => Item.Proper) (Fits "logging") IsItem f := by
  unfold LoggingConfig.fields
  simp only [List.forall_mem_cons]
  refine ⟨reads_of_kind readsKind_path (by simp [settings]) (fun _ _ => rfl) (fun _ _ => rfl) ?_,
    reads_of_kind readsKind_text (by simp [settings]) (fun _ _ => rfl) (fun _ _ => rfl) ?_,
    reads_of_kind readsKind_switch (by simp [settings]) (fun _ _ => rfl) (fun _ _ => rfl) ?_,
    List.forall_mem_nil _⟩
  all_goals
    intro record x name other
    unfold LoggingConfig.shown
    split <;> trivial

/-! ## Sections -/

/-- An item that is a table with distinct names. -/
def IsTable (_ : String) (item : Item) : Prop :=
  item.Proper ∧ ∃ form inner, item = .table form inner

/-- All entries of a table fit the settings of their names. -/
def FitsTable (table : String) (item : Item) : Prop :=
  ∀ form (inner : Entries), item = .table form inner → ∀ e ∈ inner, Fits table e.name e.item

/-- A section has the values that a table gives and otherwise those that hold without any configuration. -/
def IsSection (table : String) (item : Item) (part : String → Option Item) : Prop :=
  ∀ form (inner : Entries), item = .table form inner →
    (∀ e ∈ inner, ∀ kind, (table, e.name, kind) ∈ settings → part e.name = some e.item) ∧
    ∀ name, name ∉ inner.map Entry.name → part name = Config.standard.shown table name

/-- A section whose fields take the values of the kinds of their settings, and that begins with the values
that hold without any configuration. -/
theorem reads_of_section {σ : Type} [Inhabited σ] {fields : List (Setting σ)} {view : σ → String → Option Item}
    {f : Setting Config} {title : String} {set : Config → σ → Config}
    (reads : ∀ g ∈ fields, Reads view (fun _ => Item.Proper) (Fits f.name) IsItem g)
    (known : ∀ name, name ∈ fields.map Setting.name ↔ ∃ kind, (f.name, name, kind) ∈ settings)
    (standard : Config.standard.shown f.name = view (unset fields default))
    (put : ∀ config item, f.put config item = (readRecord title fields item).map (set config))
    (here : ∀ config x, (set config x).shown f.name = view x)
    (elsewhere : ∀ config x name, name ≠ f.name → (set config x).shown name = config.shown name) :
    Reads Config.shown IsTable FitsTable IsSection f := by
  refine reads_of_map put elsewhere (fun item regular fit => ?_) fun item regular unfit => ?_
  · obtain ⟨proper, form, inner, rfl⟩ := regular
    have entries := proper.entries
    obtain ⟨final, read, given, kept⟩ := readEntries_of_fit reads entries.names
      (fun e inside _ => ⟨entries.each e inside, fit form inner rfl e inside⟩) (unset fields default)
    refine ⟨final, read, fun config => ?_⟩
    rw [here]
    rintro _ _ ⟨⟩
    rw [standard]
    exact ⟨fun e inside kind among => given e inside ((known e.name).mpr ⟨kind, among⟩), kept⟩
  · obtain ⟨proper, form, inner, rfl⟩ := regular
    obtain ⟨e, inside, other⟩ : ∃ e : Entry, e ∈ inner ∧ ¬Fits f.name e.name e.item := by
      by_contra none
      push Not at none
      refine unfit ?_
      rintro _ _ ⟨⟩
      exact none
    have among : ∃ kind, (f.name, e.name, kind) ∈ settings := by
      by_contra none
      exact other fun kind among => absurd ⟨kind, among⟩ none
    exact readEntries_of_unfit reads inside ((known e.name).mpr among)
      (proper.entries.each e inside) other (unset fields default)

theorem reads_sections : ∀ f ∈ Config.sections,
    Reads Config.shown IsTable FitsTable IsSection f := by
  unfold Config.sections
  simp only [List.forall_mem_cons]
  refine ⟨reads_of_section reads_collector ?_ (by rw [CollectorConfig.unset_fields]; rfl)
      (fun _ _ => rfl) (fun _ _ => rfl) ?_,
    reads_of_section reads_sink ?_ (by rw [SinkConfig.unset_fields]; rfl) (fun _ _ => rfl)
      (fun _ _ => rfl) ?_,
    reads_of_section reads_logging ?_ (by rw [LoggingConfig.unset_fields]; rfl) (fun _ _ => rfl)
      (fun _ _ => rfl) ?_,
    List.forall_mem_nil _⟩
  case refine_1 => simp [CollectorConfig.fields, settings, exists_or]
  case refine_3 => simp [SinkConfig.fields, settings]
  case refine_5 => simp [LoggingConfig.fields, settings, exists_or]
  all_goals
    intro config x name other
    unfold Config.shown
    split <;> trivial

/-! ## Whole documents -/

/-- What the document has under the name of a section is a table. -/
def Sectioned (entries : Entries) : Prop :=
  ∀ s ∈ entries, s.name ∈ ["collector", "sink", "logging"] →
    ∃ form inner, s.item = .table form inner

section

variable {entries : Entries}

theorem isTable_of_sectioned (proper : entries.Proper) (sectioned : Sectioned entries) {s : Entry}
    (inside : s ∈ entries) (known : s.name ∈ Config.sections.map Setting.name) :
    IsTable s.name s.item :=
  ⟨proper.each s inside, sectioned s inside known⟩

theorem name_mem_sections {table name : String} {kind : Kind}
    (among : (table, name, kind) ∈ settings) : table ∈ Config.sections.map Setting.name := by
  have each : ∀ s ∈ settings, s.1 ∈ Config.sections.map Setting.name := by decide
  exact each _ among

/-- A document whose assignments fit gives the settings these values, and the others keep the values that
hold without any configuration. -/
theorem ofEntries_of_fit (proper : entries.Proper) (sectioned : Sectioned entries)
    (fit : ∀ table name kind, (table, name, kind) ∈ settings →
      ∀ item, entries.Assigns table name item → kind.Admits item) :
    ∃ config, Config.ofEntries entries = .ok config ∧
      ∀ table name kind, (table, name, kind) ∈ settings →
        (∀ item, entries.Assigns table name item → config.shown table name = some item) ∧
        ((∀ item, ¬entries.Assigns table name item) →
          config.shown table name = Config.standard.shown table name) := by
  have all : ∀ s ∈ entries, s.name ∈ Config.sections.map Setting.name →
      IsTable s.name s.item ∧ FitsTable s.name s.item := by
    intro s outside known
    refine ⟨isTable_of_sectioned proper sectioned outside known, ?_⟩
    intro form inner table e inside kind among
    exact fit s.name e.name kind among e.item (.intro outside table inside)
  obtain ⟨config, read, given, kept⟩ := readEntries_of_fit reads_sections proper.names all
    (unset Config.sections default)
  refine ⟨config, read, fun table name kind among => ⟨fun item assigned => ?_, fun unassigned => ?_⟩⟩
  · cases assigned with
    | intro outside table inside =>
      have part := given _ outside (name_mem_sections among) _ _ table
      exact part.1 _ inside kind among
  · by_cases present : table ∈ entries.map Entry.name
    · obtain ⟨s, outside, rfl⟩ := List.mem_map.mp present
      have known := name_mem_sections among
      obtain ⟨form, inner, table⟩ := sectioned s outside known
      refine (given s outside known form inner table).2 name fun named => ?_
      obtain ⟨e, inside, rfl⟩ := List.mem_map.mp named
      exact unassigned e.item (.intro outside table inside)
    · rw [kept table present, Config.unset_sections]

/-- A document that assigns a setting something that is no value of its kind is refused. -/
theorem ofEntries_of_unfit (proper : entries.Proper) (sectioned : Sectioned entries)
    {table name : String} {kind : Kind} {item : Item} (among : (table, name, kind) ∈ settings)
    (assigned : entries.Assigns table name item) (unfit : ¬kind.Admits item) :
    ∃ fault, Config.ofEntries entries = .error fault := by
  have known := name_mem_sections among
  cases assigned with
  | intro outside table inside =>
    refine readEntries_of_unfit reads_sections outside known
      (isTable_of_sectioned proper sectioned outside known) (fun fit => unfit ?_)
      (unset Config.sections default)
    exact fit _ _ table _ inside kind among

end

/-! ## Whole texts -/

/-- The text holds a document whose sections are tables, and these assign the chosen items to settings and
nothing to the others. Whatever else the document assigns is left open. -/
def Gives (text : String) (chosen : String → String → Option Item) : Prop :=
  ∃ entries, Toml.parse? text = some entries ∧ Sectioned entries ∧
    ∀ table name kind, (table, name, kind) ∈ settings →
      ∀ item, entries.Assigns table name item ↔ chosen table name = some item

/-- Any document whose sections are tables gives the settings what it assigns to them. -/
theorem gives_assigned {text : String} {entries : Entries} (valid : Toml.parse? text = some entries)
    (sectioned : Sectioned entries) : Gives text entries.assigned? :=
  ⟨entries, valid, sectioned, fun _ _ _ _ _ => (Toml.proper_of_parse? valid).assigns_iff⟩

/-- Values of any kind can be written. -/
theorem Kind.Admits.exists_plain {kind : Kind} {item : Item} (admitted : kind.Admits item) :
    ∃ v : Toml.Plain, v.IsSmall ∧ v.item = item := by
  cases kind with
  | text =>
    obtain ⟨s, rfl⟩ := admitted
    exact ⟨.text s, trivial, rfl⟩
  | count =>
    obtain ⟨n, small, rfl⟩ := admitted
    exact ⟨.count n, small, rfl⟩
  | switch =>
    obtain ⟨b, rfl⟩ := admitted
    exact ⟨.switch b, trivial, rfl⟩

/-- Whichever settings are chosen, and whatever values for them, there is a text that gives just these. -/
theorem exists_text {chosen : String → String → Option Item}
    (fit : ∀ table name kind, (table, name, kind) ∈ settings →
      ∀ item, chosen table name = some item → kind.Admits item) :
    ∃ text, Gives text chosen := by
  have distinct : (settings.map fun s => (s.1, s.2.1)).Nodup := by decide
  have bare : ∀ p ∈ settings.map fun s => (s.1, s.2.1),
      Toml.IsBareName p.1 ∧ Toml.IsBareName p.2 := by
    have each : ∀ s ∈ settings, (s.1.toList ≠ [] ∧ ∀ c ∈ s.1.toList, Toml.isBare c = true) ∧
        s.2.1.toList ≠ [] ∧ ∀ c ∈ s.2.1.toList, Toml.isBare c = true := by
      simp [settings, Toml.isBare]
    intro p inside
    obtain ⟨s, among, rfl⟩ := List.mem_map.mp inside
    obtain ⟨outer, inner⟩ := each s among
    exact ⟨⟨outer.1, outer.2⟩, ⟨inner.1, inner.2⟩⟩
  obtain ⟨text, entries, valid, tables, assigns⟩ :=
    Toml.exists_parse?_assigns distinct bare chosen fun p inside item given => by
      obtain ⟨⟨table, name, kind⟩, among, rfl⟩ := List.mem_map.mp inside
      exact (fit table name kind among item given).exists_plain
  refine ⟨text, entries, valid, fun s inside _ => tables s inside, fun table name kind among item => ?_⟩
  rw [assigns]
  exact and_iff_right (List.mem_map_of_mem among)

end Config

/-- Let items be chosen for some of the settings. If they are values of their kinds, there is a text that
gives them, and whatever text gives them, each setting has the value that is chosen for it, or without one
the value that holds without any configuration. If one of them is anything else, then each text that gives
them is refused with a complaint. -/
theorem Config.parse_settings (chosen : String → String → Option Item) :
    ((∀ table name kind, (table, name, kind) ∈ Config.settings →
        ∀ item, chosen table name = some item → kind.Admits item) →
      (∃ text, Config.Gives text chosen) ∧
      ∀ text, Config.Gives text chosen →
        ∃ config, Config.parse text = .ok config ∧
          ∀ table name kind, (table, name, kind) ∈ Config.settings →
            config.shown table name =
              (chosen table name).or (Config.standard.shown table name)) ∧
    ((∃ table name kind item, (table, name, kind) ∈ Config.settings ∧
        chosen table name = some item ∧ ¬kind.Admits item) →
      ∀ text, Config.Gives text chosen →
        ∃ complaint, Config.parse text = .error (.unfit complaint)) := by
  have parsed {text : String} {entries : Entries} (valid : Toml.parse? text = some entries) :
      Config.parse text = (Config.ofEntries entries).mapError fun e => .unfit (e.complaint text) := by
    unfold Config.parse
    rw [valid]
  refine ⟨fun fit => ⟨Config.exists_text fit, ?_⟩, ?_⟩
  · rintro text ⟨entries, valid, sectioned, assigns⟩
    obtain ⟨config, read, values⟩ := Config.ofEntries_of_fit (Toml.proper_of_parse? valid) sectioned
      fun table name kind among item assigned =>
        fit table name kind among item ((assigns table name kind among item).mp assigned)
    refine ⟨config, by rw [parsed valid, read]; rfl, fun table name kind among => ?_⟩
    obtain ⟨given, kept⟩ := values table name kind among
    have assigns := assigns table name kind among
    cases choice : chosen table name with
    | none =>
      refine kept fun item assigned => ?_
      rw [assigns, choice] at assigned
      cases assigned
    | some item => exact given item ((assigns item).mpr choice)
  · rintro ⟨table, name, kind, item, among, choice, unfit⟩ text ⟨entries, valid, sectioned, assigns⟩
    obtain ⟨fault, read⟩ := Config.ofEntries_of_unfit (Toml.proper_of_parse? valid) sectioned among
      ((assigns table name kind among item).mpr choice) unfit
    exact ⟨fault.complaint text, by rw [parsed valid, read]; rfl⟩

/-- Two settings stand in tables of different spelling, an unknown name stands beside one of them, and a
section is empty; in another text a number of seconds is negative. -/
theorem Config.parse_settings_partial :
    (∃ config,
      Config.parse "logging.files = false\n[collector]\ninterval_secs = 15\nother = 'x'\n[sink]\n" =
        .ok config ∧
      config.shown "logging" "files" = some (.boolean false) ∧
      config.shown "collector" "interval_secs" = some (.integer 15) ∧
      config.shown "logging" "level" = some (.text "info") ∧
      config.shown "sink" "enabled" = some (.boolean false)) ∧
    ∃ complaint, Config.parse "[collector]\ninterval_secs = -1\n" = .error (.unfit complaint) := by
  constructor
  · let entries : Entries :=
      [(⟨"logging", ⟨0, 7⟩⟩, none, .table .dotted [(⟨"files", ⟨8, 13⟩⟩, some ⟨16, 21⟩, .boolean false)]),
        (⟨"collector", ⟨23, 32⟩⟩, some ⟨22, 64⟩, .table .headed
          [(⟨"interval_secs", ⟨34, 47⟩⟩, some ⟨50, 52⟩, .integer 15),
            (⟨"other", ⟨53, 58⟩⟩, some ⟨61, 64⟩, .text "x")]),
        (⟨"sink", ⟨66, 70⟩⟩, some ⟨65, 71⟩, .table .headed [])]
    have fit : ∀ table name kind, (table, name, kind) ∈ settings →
        ∀ item, entries.assigned? table name = some item → kind.Admits item := by
      intro table name kind among item given
      simp only [settings, List.mem_cons, Prod.mk.injEq, List.not_mem_nil, or_false] at among
      rcases among with ⟨rfl, rfl, rfl⟩ | ⟨rfl, rfl, rfl⟩ | ⟨rfl, rfl, rfl⟩ | ⟨rfl, rfl, rfl⟩ |
        ⟨rfl, rfl, rfl⟩ | ⟨rfl, rfl, rfl⟩ | ⟨rfl, rfl, rfl⟩ | ⟨rfl, rfl, rfl⟩
      all_goals cases given
      · exact ⟨15, by decide, rfl⟩
      · exact ⟨false, rfl⟩
    have given : Config.Gives
        "logging.files = false\n[collector]\ninterval_secs = 15\nother = 'x'\n[sink]\n"
        entries.assigned? :=
      Config.gives_assigned (by cbv) (by simp [entries, Sectioned, Entry.item])
    obtain ⟨config, read, values⟩ := ((Config.parse_settings entries.assigned?).1 fit).2 _ given
    refine ⟨config, read, (values _ _ .switch ?_).trans rfl, (values _ _ .count ?_).trans rfl,
      (values _ _ .text ?_).trans rfl, (values _ _ .switch ?_).trans rfl⟩
    all_goals simp [settings]
  · let entries : Entries :=
      [(⟨"collector", ⟨1, 10⟩⟩, some ⟨0, 30⟩, .table .headed
        [(⟨"interval_secs", ⟨12, 25⟩⟩, some ⟨28, 30⟩, .integer (-1))])]
    refine (Config.parse_settings entries.assigned?).2
      ⟨"collector", "interval_secs", .count, .integer (-1), by simp [settings], rfl, ?_⟩ _
      (Config.gives_assigned (by cbv) (by simp [entries, Sectioned, Entry.item]))
    rintro ⟨n, -, same⟩
    cases same

end MeshTelemetry
