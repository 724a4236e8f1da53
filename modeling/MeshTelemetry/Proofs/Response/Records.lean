import MeshTelemetry.Proofs.Response.Fields
import MeshTelemetry.Proofs.Response.Reading

/-!
# The records in a section

Machine, firmware, software and client counters. For each of them, `IsX` says which documents are
read as one: objects in which each typed key occurs at most once and every value under one has its
type. `X.Reports` says what is read: every typed field is the value under its key or its default, and
the other members of the software are kept. The two meet in `X.isSome_ofDocument?` and
`X.reports_of_isX`.

Records that can be given by the list of their fields are left out where they are, and what is kept
is asked to respect the limits on nesting and on the range of doubles (`Software.Regular`).
-/

namespace MeshTelemetry

open Json

/-! ## The machine -/

/-- The type of a value under a key of a machine description. -/
def Hardware.typed : String → Document → Prop
  | "model" => Nullable IsText
  | "nproc" => Nullable IsCount
  | _ => fun _ => True

/-- A document that describes a machine. -/
def IsHardware : Document → Prop :=
  IsRecord (namedIn ["model", "nproc"]) Hardware.typed

/-- A document describes this machine. -/
structure Hardware.Reports (d : Document) (h : Hardware) : Prop where
  model : h.model = (under ["model"] d.entries).bind Document.text?
  processors : h.processors = (under ["nproc"] d.entries).bind Document.count?

theorem Hardware.isSome_member? (key : String) (d : Document) :
    (Hardware.member? key d).isSome = true ↔ Hardware.typed key d := by
  unfold Hardware.typed
  split
  · rw [Hardware.member?, Option.isSome_map, isSome_optional?]
    exact nullable_congr isSome_text?
  · rw [Hardware.member?, Option.isSome_map, isSome_optional?]
    exact nullable_congr isSome_count?
  · rename_i model processors
    rw [Hardware.member?.eq_3 key model processors]
    exact iff_of_true rfl trivial

theorem Hardware.isSome_ofDocument? {d : Document} (plain : d.isList = false) :
    (Hardware.ofDocument? d).isSome = true ↔ IsHardware d := by
  rw [Hardware.ofDocument?, Option.isSome_map, record?_eq_object? plain, isSome_object?]
  exact IsRecord.congr fun e _ => Hardware.isSome_member? e.1 e.2

theorem Hardware.fields_ofMembers {entries : List (String × Document)} {ms : List Hardware.Member}
    (all : (entries.mapM fun e => Hardware.member? e.1 e.2) = some ms) :
    (Hardware.ofMembers ms).model = (under ["model"] entries).bind Document.text? ∧
      (Hardware.ofMembers ms).processors = (under ["nproc"] entries).bind Document.count? := by
  induction entries generalizing ms with
  | nil =>
    cases all
    exact ⟨rfl, rfl⟩
  | cons e entries ih =>
    rcases mapM_cons_eq_some.mp all with ⟨m, rest, first, more, rfl⟩
    obtain ⟨key, d⟩ := e
    have ⟨model, processors⟩ := ih more
    simp only [under_cons, List.mem_singleton]
    dsimp only at first
    unfold Hardware.member? at first
    split at first
    · rcases Option.map_eq_some_iff.mp first with ⟨x, value, rfl⟩
      exact ⟨eq_of_optional? rfl value, processors⟩
    · rcases Option.map_eq_some_iff.mp first with ⟨x, value, rfl⟩
      exact ⟨model, eq_of_optional? rfl value⟩
    · rename_i notModel notProcessors
      cases first
      rw [if_neg notModel, if_neg notProcessors]
      exact ⟨model, processors⟩

theorem Hardware.reports_of_isHardware {d : Document} (plain : d.isList = false)
    (fits : IsHardware d) : ∃ h, Hardware.ofDocument? d = some h ∧ Hardware.Reports d h := by
  rcases Option.isSome_iff_exists.mp ((Hardware.isSome_ofDocument? plain).mpr fits) with ⟨h, read⟩
  refine ⟨h, read, ?_⟩
  rw [Hardware.ofDocument?, record?_eq_object? plain] at read
  rcases Option.map_eq_some_iff.mp read with ⟨ms, members, rfl⟩
  rcases Hardware.fields_ofMembers (object?_eq_some members) with ⟨model, processors⟩
  exact ⟨model, processors⟩

/-! ## The firmware -/

/-- The type of a value under a key of a firmware description. -/
def Firmware.typed : String → Document → Prop
  | "base" => Nullable IsText
  | "release" => Nullable IsText
  | _ => fun _ => True

/-- A document that describes a firmware. -/
def IsFirmware : Document → Prop :=
  IsRecord (namedIn ["base", "release"]) Firmware.typed

/-- A document describes this firmware. -/
structure Firmware.Reports (d : Document) (f : Firmware) : Prop where
  base : f.base = (under ["base"] d.entries).bind Document.text?
  release : f.release = (under ["release"] d.entries).bind Document.text?

theorem Firmware.isSome_member? (key : String) (d : Document) :
    (Firmware.member? key d).isSome = true ↔ Firmware.typed key d := by
  unfold Firmware.typed
  split
  · rw [Firmware.member?, Option.isSome_map, isSome_optional?]
    exact nullable_congr isSome_text?
  · rw [Firmware.member?, Option.isSome_map, isSome_optional?]
    exact nullable_congr isSome_text?
  · rename_i base release
    rw [Firmware.member?.eq_3 key base release]
    exact iff_of_true rfl trivial

theorem Firmware.isSome_ofDocument? {d : Document} (plain : d.isList = false) :
    (Firmware.ofDocument? d).isSome = true ↔ IsFirmware d := by
  rw [Firmware.ofDocument?, Option.isSome_map, record?_eq_object? plain, isSome_object?]
  exact IsRecord.congr fun e _ => Firmware.isSome_member? e.1 e.2

theorem Firmware.fields_ofMembers {entries : List (String × Document)} {ms : List Firmware.Member}
    (all : (entries.mapM fun e => Firmware.member? e.1 e.2) = some ms) :
    (Firmware.ofMembers ms).base = (under ["base"] entries).bind Document.text? ∧
      (Firmware.ofMembers ms).release = (under ["release"] entries).bind Document.text? := by
  induction entries generalizing ms with
  | nil =>
    cases all
    exact ⟨rfl, rfl⟩
  | cons e entries ih =>
    rcases mapM_cons_eq_some.mp all with ⟨m, rest, first, more, rfl⟩
    obtain ⟨key, d⟩ := e
    have ⟨base, release⟩ := ih more
    simp only [under_cons, List.mem_singleton]
    dsimp only at first
    unfold Firmware.member? at first
    split at first
    · rcases Option.map_eq_some_iff.mp first with ⟨x, value, rfl⟩
      exact ⟨eq_of_optional? rfl value, release⟩
    · rcases Option.map_eq_some_iff.mp first with ⟨x, value, rfl⟩
      exact ⟨base, eq_of_optional? rfl value⟩
    · rename_i notBase notRelease
      cases first
      rw [if_neg notBase, if_neg notRelease]
      exact ⟨base, release⟩

theorem Firmware.reports_of_isFirmware {d : Document} (plain : d.isList = false)
    (fits : IsFirmware d) : ∃ f, Firmware.ofDocument? d = some f ∧ Firmware.Reports d f := by
  rcases Option.isSome_iff_exists.mp ((Firmware.isSome_ofDocument? plain).mpr fits) with ⟨f, read⟩
  refine ⟨f, read, ?_⟩
  rw [Firmware.ofDocument?, record?_eq_object? plain] at read
  rcases Option.map_eq_some_iff.mp read with ⟨ms, members, rfl⟩
  rcases Firmware.fields_ofMembers (object?_eq_some members) with ⟨base, release⟩
  exact ⟨base, release⟩

/-! ## The software -/

/-- The type of a value under a key of a software description. -/
def Software.typed : String → Document → Prop
  | "firmware" => Nullable IsFirmware
  | _ => fun _ => True

/-- A document that describes software. -/
def IsSoftware : Document → Prop :=
  IsRecord (namedIn ["firmware"]) Software.typed

/-- The firmware is not a list, and what is kept respects the limits. -/
structure Software.Regular (d : Document) : Prop where
  firmware : ∀ v, ("firmware", v) ∈ d.entries → v.isList = false
  kept : ∀ e ∈ others ["firmware"] d.entries, e.2.Fits (Json.nestingLimit - 3)

/-- A document describes this software. -/
structure Software.Reports (d : Document) (s : Software) : Prop where
  firmware : Field Firmware.Reports (under ["firmware"] d.entries) s.firmware
  extra : Keeps (Json.nestingLimit - 3) (others ["firmware"] d.entries) s.extra

theorem Software.isSome_member? {whole : Document} (regular : Software.Regular whole) {key : String}
    {d : Document} (mem : (key, d) ∈ whole.entries) :
    (Software.member? key d).isSome = true ↔ Software.typed key d := by
  unfold Software.typed
  split
  · rw [Software.member?, Option.isSome_map, isSome_optional?]
    exact nullable_congr (Firmware.isSome_ofDocument? (regular.firmware d mem))
  · rename_i firmware
    rw [Software.member?.eq_2 key firmware, Option.isSome_map, Document.isSome_keep?]
    have fits := regular.kept (key, d) (mem_others.mpr ⟨mem, by simpa using firmware⟩)
    exact iff_of_true fits trivial

theorem Software.isSome_ofDocument? {d : Document} (regular : Software.Regular d) :
    (Software.ofDocument? d).isSome = true ↔ IsSoftware d := by
  rw [Software.ofDocument?, Option.isSome_map, isSome_object?]
  exact IsRecord.congr fun e mem => Software.isSome_member? regular mem

theorem Software.firmware_ofMembers {entries : List (String × Document)}
    {ms : List Software.Member}
    (all : (entries.mapM fun e => Software.member? e.1 e.2) = some ms) :
    (Software.ofMembers ms).firmware =
      (under ["firmware"] entries).bind Firmware.ofDocument? := by
  induction entries generalizing ms with
  | nil =>
    cases all
    rfl
  | cons e entries ih =>
    rcases mapM_cons_eq_some.mp all with ⟨m, rest, first, more, rfl⟩
    obtain ⟨key, d⟩ := e
    have firmware := ih more
    simp only [under_cons, List.mem_singleton]
    dsimp only at first
    unfold Software.member? at first
    split at first
    · rcases Option.map_eq_some_iff.mp first with ⟨x, value, rfl⟩
      exact eq_of_optional? rfl value
    · rename_i notFirmware
      rcases Option.map_eq_some_iff.mp first with ⟨v, -, rfl⟩
      rw [if_neg notFirmware]
      exact firmware

theorem Software.extra_ofMembers {entries : List (String × Document)} {ms : List Software.Member}
    (all : (entries.mapM fun e => Software.member? e.1 e.2) = some ms) :
    Keeps (Json.nestingLimit - 3) (others ["firmware"] entries) (Software.ofMembers ms).extra := by
  refine keeps_of_picked (fun key d m read => ?_) all
  unfold Software.member? at read
  split at read
  · rcases Option.map_eq_some_iff.mp read with ⟨x, -, rfl⟩
    exact .inl ⟨by simp, rfl⟩
  · rename_i firmware
    rcases Option.map_eq_some_iff.mp read with ⟨v, value, rfl⟩
    exact .inr ⟨by simpa using firmware, v, value, rfl⟩

theorem Software.reports_of_isSoftware {d : Document} (regular : Software.Regular d)
    (fits : IsSoftware d) : ∃ s, Software.ofDocument? d = some s ∧ Software.Reports d s := by
  rcases Option.isSome_iff_exists.mp ((Software.isSome_ofDocument? regular).mpr fits) with ⟨s, read⟩
  refine ⟨s, read, ?_⟩
  rcases Option.map_eq_some_iff.mp read with ⟨ms, members, rfl⟩
  have all := object?_eq_some members
  refine ⟨?_, Software.extra_ofMembers all⟩
  rw [Software.firmware_ofMembers all]
  exact field_under rfl (fun v mem => fits.typed _ mem) fun v mem =>
    Firmware.reports_of_isFirmware (regular.firmware v mem)

/-! ## The clients -/

/-- The type of a value under a key of the client counters. -/
def Clients.typed : String → Document → Prop
  | "total" => IsCount
  | "wifi" => IsCount
  | "wifi24" => IsCount
  | "wifi5" => IsCount
  | _ => fun _ => True

/-- A document that gives client counters. -/
def IsClients : Document → Prop :=
  IsRecord (namedIn ["total", "wifi", "wifi24", "wifi5"]) Clients.typed

/-- A document gives these client counters. -/
structure Clients.Reports (d : Document) (c : Clients) : Prop where
  total : c.total = ((under ["total"] d.entries).bind Document.count?).getD 0
  wifi : c.wifi = ((under ["wifi"] d.entries).bind Document.count?).getD 0
  wifi24 : c.wifi24 = ((under ["wifi24"] d.entries).bind Document.count?).getD 0
  wifi5 : c.wifi5 = ((under ["wifi5"] d.entries).bind Document.count?).getD 0

theorem Clients.isSome_member? (key : String) (d : Document) :
    (Clients.member? key d).isSome = true ↔ Clients.typed key d := by
  unfold Clients.typed
  split
  · rw [Clients.member?, Option.isSome_map, isSome_count?]
  · rw [Clients.member?, Option.isSome_map, isSome_count?]
  · rw [Clients.member?, Option.isSome_map, isSome_count?]
  · rw [Clients.member?, Option.isSome_map, isSome_count?]
  · rename_i total wifi wifi24 wifi5
    rw [Clients.member?.eq_5 key total wifi wifi24 wifi5]
    exact iff_of_true rfl trivial

theorem Clients.isSome_ofDocument? {d : Document} (plain : d.isList = false) :
    (Clients.ofDocument? d).isSome = true ↔ IsClients d := by
  rw [Clients.ofDocument?, Option.isSome_map, record?_eq_object? plain, isSome_object?]
  exact IsRecord.congr fun e _ => Clients.isSome_member? e.1 e.2

theorem Clients.fields_ofMembers {entries : List (String × Document)} {ms : List Clients.Member}
    (all : (entries.mapM fun e => Clients.member? e.1 e.2) = some ms) :
    (Clients.ofMembers ms).total = ((under ["total"] entries).bind Document.count?).getD 0 ∧
      (Clients.ofMembers ms).wifi = ((under ["wifi"] entries).bind Document.count?).getD 0 ∧
      (Clients.ofMembers ms).wifi24 = ((under ["wifi24"] entries).bind Document.count?).getD 0 ∧
      (Clients.ofMembers ms).wifi5 = ((under ["wifi5"] entries).bind Document.count?).getD 0 := by
  induction entries generalizing ms with
  | nil =>
    cases all
    exact ⟨rfl, rfl, rfl, rfl⟩
  | cons e entries ih =>
    rcases mapM_cons_eq_some.mp all with ⟨m, rest, first, more, rfl⟩
    obtain ⟨key, d⟩ := e
    have ⟨total, wifi, wifi24, wifi5⟩ := ih more
    simp only [under_cons, List.mem_singleton]
    dsimp only at first
    unfold Clients.member? at first
    split at first
    · rcases Option.map_eq_some_iff.mp first with ⟨n, value, rfl⟩
      exact ⟨(congrArg (Option.getD · 0) value).symm, wifi, wifi24, wifi5⟩
    · rcases Option.map_eq_some_iff.mp first with ⟨n, value, rfl⟩
      exact ⟨total, (congrArg (Option.getD · 0) value).symm, wifi24, wifi5⟩
    · rcases Option.map_eq_some_iff.mp first with ⟨n, value, rfl⟩
      exact ⟨total, wifi, (congrArg (Option.getD · 0) value).symm, wifi5⟩
    · rcases Option.map_eq_some_iff.mp first with ⟨n, value, rfl⟩
      exact ⟨total, wifi, wifi24, (congrArg (Option.getD · 0) value).symm⟩
    · rename_i notTotal notWifi notWifi24 notWifi5
      cases first
      rw [if_neg notTotal, if_neg notWifi, if_neg notWifi24, if_neg notWifi5]
      exact ⟨total, wifi, wifi24, wifi5⟩

theorem Clients.reports_of_isClients {d : Document} (plain : d.isList = false)
    (fits : IsClients d) : ∃ c, Clients.ofDocument? d = some c ∧ Clients.Reports d c := by
  rcases Option.isSome_iff_exists.mp ((Clients.isSome_ofDocument? plain).mpr fits) with ⟨c, read⟩
  refine ⟨c, read, ?_⟩
  rw [Clients.ofDocument?, record?_eq_object? plain] at read
  rcases Option.map_eq_some_iff.mp read with ⟨ms, members, rfl⟩
  rcases Clients.fields_ofMembers (object?_eq_some members) with ⟨total, wifi, wifi24, wifi5⟩
  exact ⟨total, wifi, wifi24, wifi5⟩

end MeshTelemetry
