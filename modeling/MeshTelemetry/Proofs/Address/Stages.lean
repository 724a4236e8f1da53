import Mathlib
import MeshTelemetry.Address.Resolve
import MeshTelemetry.Config.Basic
import MeshTelemetry.Proofs.Address.Scanning

/-!
# The stages of resolving an address

A text with a percent sign that is read as a numeric socket address is read as the same scoped address
(`resolveScoped_of_parse?`), so that the first two stages can be tried in either order
(`resolveScopedFirst_eq`). A text that consists of an address, a zone and a port in brackets is decided by
these three parts, whatever they are, and never gets to the last stage (`resolveWith_scopedText`).
-/

namespace MeshTelemetry

/-! ## Parts of a numeric socket address -/

section

variable {limit n : Nat} {text rest : List Char}

/-- The digits of a number that is taken from the front of a text. -/
theorem exists_digits_of_scanNatural (found : scanNatural limit text = some (n, rest)) :
    ∃ digits, text = digits ++ rest ∧ (∀ c ∈ digits, c.isDigit = true) ∧
      Text.IsNumeral limit digits n := by
  unfold scanNatural at found
  dsimp only at found
  split at found
  · rename_i fits
    cases found
    have all : ∀ c ∈ text.takeWhile Char.isDigit, c.isDigit = true :=
      List.all_eq_true.mp List.all_takeWhile
    exact ⟨text.takeWhile Char.isDigit, List.takeWhile_append_dropWhile.symm, all, _, .inl rfl,
      fits.1, all, rfl, fits.2⟩
  · cases found

theorem eq_cons_of_scanChar {expected : Char} (found : scanChar expected text = some ((), rest)) :
    text = expected :: rest := by
  cases text with
  | nil => cases found
  | cons c text =>
    dsimp only [scanChar] at found
    split at found
    · cases found
      rw [‹c = expected›]
    · cases found

theorem exists_digits_of_scanPort {port : UInt16} (found : scanPort text = some (port, rest)) :
    ∃ digits n, text = ':' :: digits ++ rest ∧ (∀ c ∈ digits, c.isDigit = true) ∧
      Text.IsNumeral 65535 digits n ∧ port = UInt16.ofNat n := by
  obtain ⟨⟨_, behind⟩, colon, found⟩ := Option.bind_eq_some_iff.mp found
  obtain ⟨⟨n, left⟩, number, found⟩ := Option.bind_eq_some_iff.mp found
  cases found
  obtain ⟨digits, rfl, all, numeral⟩ := exists_digits_of_scanNatural number
  exact ⟨digits, n, eq_cons_of_scanChar colon, all, numeral, rfl⟩

/-- A scope is missing, or it is a number behind a percent sign. -/
theorem scanScope_cases (text : List Char) :
    scanScope text = (0, text) ∨
      ∃ zone m rest, text = '%' :: zone ++ rest ∧ (∀ c ∈ zone, c.isDigit = true) ∧
        Text.IsNumeral 4294967295 zone m ∧ scanScope text = (UInt32.ofNat m, rest) := by
  unfold scanScope
  split
  · exact .inl rfl
  · rename_i percent
    split
    · exact .inl rfl
    · rename_i number
      obtain ⟨digits, rfl, all, numeral⟩ := exists_digits_of_scanNatural number
      exact .inr ⟨digits, _, _, eq_cons_of_scanChar percent, all, numeral, rfl⟩

end

/-- A numeric zone with its percent sign, or none. -/
inductive IsZone : List Char → UInt32 → Prop
  | none : IsZone [] 0
  | numeric {zone : List Char} {m : Nat} (digits : ∀ c ∈ zone, c.isDigit = true)
    (numeral : Text.IsNumeral 4294967295 zone m) : IsZone ('%' :: zone) (UInt32.ofNat m)

/-- An IPv6 socket address with a numeric zone or none, by its parts. -/
structure IsScoped (text ip zone port : List Char) (v6 : Ipv6) (n : Nat) (scope : UInt32) : Prop where
  text_eq : text = '[' :: (ip ++ zone ++ ']' :: ':' :: port)
  ip_eq : Ipv6.parse? ip = some v6
  ip_native : ∀ c, Foreign c → c ∉ ip
  zone : IsZone zone scope
  port_digits : ∀ c ∈ port, c.isDigit = true
  port_eq : Text.IsNumeral 65535 port n

theorem exists_parts_of_scanSocketV6 {text : List Char} {a : SocketAddress}
    (found : scanSocketV6 text = some (a, [])) :
    ∃ ip zone port v6 n scope, IsScoped text ip zone port v6 n scope ∧
      a = .v6 v6 (UInt16.ofNat n) scope := by
  obtain ⟨⟨_, inside⟩, opening, afterOpening⟩ := Option.bind_eq_some_iff.mp found
  obtain ⟨⟨v6, behind⟩, address, afterAddress⟩ := Option.bind_eq_some_iff.mp afterOpening
  obtain ⟨scope, afterScope, taken⟩ : ∃ scope rest, scanScope behind = (scope, rest) :=
    ⟨_, _, rfl⟩
  simp only [taken] at afterAddress
  obtain ⟨⟨_, outside⟩, closing, afterClosing⟩ := Option.bind_eq_some_iff.mp afterAddress
  obtain ⟨⟨port, left⟩, number, whole⟩ := Option.bind_eq_some_iff.mp afterClosing
  cases whole
  clear found afterOpening afterAddress afterClosing
  obtain ⟨ip, rfl, native, alone⟩ := Ipv6.plain_scan.exists_taken address
  obtain ⟨digits, n, rfl, all, numeral, rfl⟩ := exists_digits_of_scanPort number
  have whole {c : Char} {more : List Char} (foreign : Foreign c) (here : behind = c :: more) :
      Ipv6.parse? ip = some v6 := by
    unfold Ipv6.parse?
    rw [alone c more foreign here]
  have closed := eq_cons_of_scanChar closing
  rw [List.append_nil] at closed
  have opened := eq_cons_of_scanChar opening
  rcases scanScope_cases behind with unscoped | ⟨zone, m, rest, rfl, zoneAll, zoneNumeral, read⟩
  · cases taken.symm.trans unscoped
    refine ⟨ip, [], digits, v6, n, 0,
      ⟨?_, whole foreign_bracket closed, native, .none, all, numeral⟩, rfl⟩
    rw [opened, closed, List.append_nil]
  · cases taken.symm.trans read
    refine ⟨ip, '%' :: zone, digits, v6, n, _,
      ⟨?_, whole foreign_percent rfl, native, .numeric zoneAll zoneNumeral, all, numeral⟩, rfl⟩
    rw [opened, closed, ← List.append_assoc]

theorem scanSocket_of_parse? {text : List Char} {a : SocketAddress}
    (read : SocketAddress.parse? text = some a) :
    scanSocketV4 text = some (a, []) ∨ scanSocketV6 text = some (a, []) := by
  unfold SocketAddress.parse? at read
  split at read
  · cases read
    rename_i found
    exact (Option.or_eq_some_iff.mp found).imp id And.right
  · cases read

/-! ## Three parts in brackets -/

/-- An address with a zone in brackets, and a port. -/
def scopedText (ip zone port : List Char) : List Char :=
  '[' :: (ip ++ '%' :: zone ++ ']' :: ':' :: port)

/-- An address, a zone and a port in brackets are cut apart again, whatever the zone is. -/
theorem scopedParts?_scopedText {ip port : List Char} (unscoped : '%' ∉ ip)
    (last : ¬[']', ':'] <:+: port) (zone : List Char) :
    scopedParts? (scopedText ip zone port) = some (ip, zone, port) := by
  have cut : Text.splitFirst? '%' (ip ++ '%' :: zone) = some (ip, zone) :=
    Text.splitFirst?_eq_some_iff.mpr ⟨rfl, unscoped⟩
  rw [scopedText, scopedParts?, Text.splitLast?_append (by decide) last]
  dsimp only [bind, Option.bind]
  rw [cut]
  rfl

/-- A text that is cut into parts has a percent sign. -/
theorem mem_of_scopedParts? {text ip zone port : List Char}
    (cut : scopedParts? text = some (ip, zone, port)) : '%' ∈ text := by
  unfold scopedParts? at cut
  split at cut
  · obtain ⟨⟨host, _⟩, outer, cut⟩ := Option.bind_eq_some_iff.mp cut
    obtain ⟨⟨before, behind⟩, inner, -⟩ := Option.bind_eq_some_iff.mp cut
    rw [Text.eq_append_of_splitLast? outer, (Text.splitFirst?_eq_some_iff.mp inner).1]
    simp
  · cases cut

theorem not_infix_of_digits {digits : List Char} (all : ∀ c ∈ digits, c.isDigit = true) :
    ¬[']', ':'] <:+: digits := fun inside =>
  absurd (all ']' (inside.subset (List.mem_cons_self ..))) (by decide)

/-- A text with a percent sign that is read as a numeric socket address is read as the same address from
its parts. -/
theorem resolveScoped_of_parse? {text : List Char} {a : SocketAddress}
    (read : SocketAddress.parse? text = some a) (percent : '%' ∈ text) :
    ∃ ip zone port, scopedParts? text = some (ip, zone, port) ∧
      ∀ interfaces, resolveScoped interfaces ip zone port = .ok a := by
  rcases scanSocket_of_parse? read with found | found
  · -- An IPv4 address is read to its end, and a percent sign is in no part of it.
    obtain ⟨taken, rfl, native, -⟩ := plain_scanSocketV4.exists_taken found
    rw [List.append_nil] at percent
    exact absurd percent (native '%' foreign_percent)
  · obtain ⟨ip, zone, port, v6, n, scope, parts, rfl⟩ := exists_parts_of_scanSocketV6 found
    have unscoped : '%' ∉ ip := parts.ip_native '%' foreign_percent
    rw [parts.text_eq] at percent ⊢
    cases parts.zone with
    | none =>
      -- Without a zone there is no percent sign.
      have outside : '%' ∉ port := fun mem => absurd (parts.port_digits '%' mem) (by decide)
      simp [unscoped, outside] at percent
    | @numeric zone m digits numeral =>
      have last : ¬[']', ':'] <:+: port := not_infix_of_digits parts.port_digits
      refine ⟨ip, zone, port, scopedParts?_scopedText unscoped last zone, fun interfaces => ?_⟩
      unfold resolveScoped Interfaces.scope?
      rw [parts.ip_eq, Text.readNatural_eq_ok_iff.mpr parts.port_eq,
        Text.readNatural_eq_ok_iff.mpr numeral]

/-! ## The order of the stages -/

section

variable (last : List Char → Except AddressFault SocketAddress) (interfaces : Interfaces)
  (text : List Char)

/-- The stages in their order, with any last one. -/
def resolveWith : Except AddressFault SocketAddress :=
  match SocketAddress.parse? text with
  | some a => .ok a
  | none =>
    match scopedParts? text with
    | some (ip, zone, port) => resolveScoped interfaces ip zone port
    | none => last text

/-- The stages with the first two in the other order. -/
def resolveScopedFirst : Except AddressFault SocketAddress :=
  match scopedParts? text with
  | some (ip, zone, port) => resolveScoped interfaces ip zone port
  | none =>
    match SocketAddress.parse? text with
    | some a => .ok a
    | none => last text

theorem resolveText_eq :
    resolveText interfaces text = resolveWith (resolveHostPort interfaces) interfaces text := rfl

/-- A text that can be cut into parts is decided by them, even if it is a numeric socket address. -/
theorem resolveWith_of_scopedParts? {text ip zone port : List Char}
    (cut : scopedParts? text = some (ip, zone, port)) :
    resolveWith last interfaces text = resolveScoped interfaces ip zone port := by
  unfold resolveWith
  split
  · rename_i read
    obtain ⟨_, _, _, again, resolved⟩ := resolveScoped_of_parse? read (mem_of_scopedParts? cut)
    cases cut.symm.trans again
    exact (resolved interfaces).symm
  · rw [cut]

/-- The first two stages can be tried in either order. -/
theorem resolveScopedFirst_eq :
    resolveScopedFirst last interfaces text = resolveWith last interfaces text := by
  unfold resolveScopedFirst
  split
  · exact (resolveWith_of_scopedParts? last interfaces ‹_›).symm
  · rename_i whole
    unfold resolveWith
    rw [whole]

/-- A zone in brackets leaves nothing to the last stage, whatever text it is. -/
theorem resolveWith_scopedText {ip port : List Char} (unscoped : '%' ∉ ip)
    (cut : ¬[']', ':'] <:+: port) (zone : List Char) :
    resolveWith last interfaces (scopedText ip zone port) =
      resolveScoped interfaces ip zone port :=
  resolveWith_of_scopedParts? last interfaces (scopedParts?_scopedText unscoped cut zone)

end

/-! ## What the parts name -/

section

variable {interfaces : Interfaces} {ip zone port : List Char}

/-- The scope that a zone denotes: its value if it is the text of a number, otherwise the number of the
interface that has exactly this name. -/
def Interfaces.Denotes (interfaces : Interfaces) (zone : List Char) (scope : UInt32) : Prop :=
  (∃ n, Text.IsNumeral 4294967295 zone n ∧ scope = UInt32.ofNat n) ∨
    (¬∃ n, Text.IsNumeral 4294967295 zone n) ∧ interfaces (String.ofList zone) = some scope

/-- The address that an address text, a zone and a port name together. -/
def Interfaces.Names (interfaces : Interfaces) (ip zone port : List Char) (a : SocketAddress) : Prop :=
  ∃ v6 n scope, Ipv6.parse? ip = some v6 ∧ Text.IsNumeral 65535 port n ∧
    interfaces.Denotes zone scope ∧ a = .v6 v6 (UInt16.ofNat n) scope

theorem Interfaces.scope?_eq_some_iff {scope : UInt32} :
    interfaces.scope? zone = some scope ↔ interfaces.Denotes zone scope := by
  unfold Interfaces.scope? Interfaces.Denotes
  simp only [← Text.readNatural_eq_ok_iff]
  cases Text.readNatural 4294967295 zone with
  | ok n => simp [eq_comm]
  | error fault => simp

theorem resolveScoped_eq_ok_iff {a : SocketAddress} :
    resolveScoped interfaces ip zone port = .ok a ↔ interfaces.Names ip zone port a := by
  unfold resolveScoped Interfaces.Names
  simp only [← Text.readNatural_eq_ok_iff, ← Interfaces.scope?_eq_some_iff]
  cases Ipv6.parse? ip with
  | none => simp
  | some v6 =>
    cases Text.readNatural 65535 port with
    | error fault => simp
    | ok n => cases interfaces.scope? zone <;> simp [eq_comm]

end

/-- A numeric socket address with a percent sign has the same parts, so that the first two stages can be
tried in either order. An address, a zone and a port in brackets are decided by these parts alone: the
result is the address that they name, or an error about the text if they name none, and whatever the last
stage is, it does not matter. -/
theorem resolve_scoped (interfaces : Interfaces) :
    (∀ text a, SocketAddress.parse? text = some a → '%' ∈ text →
      ∃ ip zone port, scopedParts? text = some (ip, zone, port) ∧
        resolveScoped interfaces ip zone port = .ok a) ∧
    (∀ last text, resolveScopedFirst last interfaces text = resolveWith last interfaces text) ∧
    ∀ ip zone port, '%' ∉ ip → ¬[']', ':'] <:+: port →
      let text := scopedText ip zone port
      let address := String.ofList text
      (∀ a, resolve interfaces address = .ok a ↔ interfaces.Names ip zone port a) ∧
      ((∀ a, ¬interfaces.Names ip zone port a) →
        ∃ fault, resolve interfaces address = .error ⟨address, fault⟩) ∧
      ∀ last, resolveWith last interfaces text = resolveText interfaces text := by
  refine ⟨fun text a read percent => ?_, fun last text => resolveScopedFirst_eq last interfaces text,
    fun ip zone port unscoped cut => ?_⟩
  · obtain ⟨ip, zone, port, cut, resolved⟩ := resolveScoped_of_parse? read percent
    exact ⟨ip, zone, port, cut, resolved interfaces⟩
  · intro text address
    have decided (last : List Char → Except AddressFault SocketAddress) :=
      resolveWith_scopedText last interfaces unscoped cut zone
    have resolved : resolve interfaces address =
        (resolveScoped interfaces ip zone port).mapError fun fault => ⟨address, fault⟩ := by
      unfold resolve
      rw [String.toList_ofList, resolveText_eq, decided]
    refine ⟨fun a => ?_, fun nameless => ?_, fun last => ?_⟩
    · rw [resolved, ← resolveScoped_eq_ok_iff]
      cases resolveScoped interfaces ip zone port <;> simp [Except.mapError]
    · rw [resolved]
      cases outcome : resolveScoped interfaces ip zone port with
      | ok a => exact absurd (resolveScoped_eq_ok_iff.mp outcome) (nameless a)
      | error fault => exact ⟨fault, rfl⟩
    · rw [resolveText_eq, decided, decided]

/-- A numeric zone, the name of an interface with a signed port, and a name that no interface has. -/
theorem resolve_scoped_zones :
    let interfaces : Interfaces := fun name => if name = "eth0" then some 3 else none
    let ip := ['f', 'e', '8', '0', ':', ':', '1']
    let linkLocal : Ipv6 := ⟨[0xfe80, 0, 0, 0, 0, 0, 0, 1], rfl⟩
    let numeric := scopedText ip ['2'] ['0', '8', '0']
    let named := scopedText ip ['e', 't', 'h', '0'] ['+', '8', '0']
    let unknown := scopedText ip ['e', ']', ':', '%'] ['8', '0']
    SocketAddress.parse? numeric = some (.v6 linkLocal 80 2) ∧ '%' ∈ numeric ∧
      resolveScoped interfaces ip ['2'] ['0', '8', '0'] = .ok (.v6 linkLocal 80 2) ∧
      '%' ∉ ip ∧ ¬[']', ':'] <:+: ['+', '8', '0'] ∧ ¬[']', ':'] <:+: ['8', '0'] ∧
      resolve interfaces (String.ofList named) = .ok (.v6 linkLocal 80 3) ∧
      ∃ fault, resolve interfaces (String.ofList unknown) = .error ⟨String.ofList unknown, fault⟩ := by
  intro interfaces ip linkLocal numeric named unknown
  have read : SocketAddress.parse? numeric = some (.v6 linkLocal 80 2) := by
    unfold numeric ip linkLocal
    decide
  have percent : '%' ∈ numeric := by decide
  have unscoped : '%' ∉ ip := by decide
  have signedLast : ¬[']', ':'] <:+: ['+', '8', '0'] := by decide
  have plainLast : ¬[']', ':'] <:+: ['8', '0'] := by decide
  obtain ⟨agree, -, decided⟩ := resolve_scoped interfaces
  have again : resolveScoped interfaces ip ['2'] ['0', '8', '0'] = .ok (.v6 linkLocal 80 2) := by
    obtain ⟨_, _, _, cut, resolved⟩ := agree numeric _ read percent
    have parts : scopedParts? numeric = some (ip, ['2'], ['0', '8', '0']) := by decide
    cases parts.symm.trans cut
    exact resolved
  obtain ⟨byName, -, -⟩ := decided ip ['e', 't', 'h', '0'] ['+', '8', '0'] unscoped signedLast
  obtain ⟨-, failing, -⟩ := decided ip ['e', ']', ':', '%'] ['8', '0'] unscoped plainLast
  refine ⟨read, percent, again, unscoped, signedLast, plainLast, (byName _).mpr ?_, failing fun a => ?_⟩
  · exact resolveScoped_eq_ok_iff.mp (by cbv)
  · rw [← resolveScoped_eq_ok_iff]
    have unknownName : resolveScoped interfaces ip ['e', ']', ':', '%'] ['8', '0'] =
        .error (.unknownInterface "e]:%") := by cbv
    rw [unknownName]
    exact fun same => by cases same

/-! ## The multicast address -/

theorem resolveScoped_multicastGroup (interfaces : Interfaces) (zone : List Char) :
    resolveScoped interfaces multicastGroup.print zone (Text.decimal nodePort.toNat) =
      match interfaces.scope? zone with
      | none => .error (.unknownInterface (String.ofList zone))
      | some scope => .ok (.v6 multicastGroup nodePort scope) := by
  have group : Ipv6.parse? multicastGroup.print = some multicastGroup := by decide
  have port : Text.readNatural 65535 (Text.decimal nodePort.toNat) = .ok 1001 := by rfl
  unfold resolveScoped
  rw [group, port]
  rfl

/-- The address that requests go to unless one is given is the multicast group, in the scope that the
configured interface denotes, whatever text that is; if it denotes none, the error names it. No stage
behind the parts in brackets is tried. -/
theorem resolve_requestAddress (interfaces : Interfaces) {config : CollectorConfig}
    (implicit : config.requestTarget = none) :
    (∀ a, resolve interfaces config.requestAddress = .ok a ↔
      ∃ scope, interfaces.Denotes config.interface.toList scope ∧
        a = .v6 ⟨[0xff02, 0, 0, 0, 0, 0, 2, 0x1001], rfl⟩ 1001 scope) ∧
    (∀ e, resolve interfaces config.requestAddress = .error e ↔
      (∀ scope, ¬interfaces.Denotes config.interface.toList scope) ∧
        e = ⟨config.requestAddress, .unknownInterface config.interface⟩) ∧
    (AddressFault.unknownInterface config.interface).message =
      "unknown interface '" ++ config.interface ++ "'" ∧
    ∀ last, resolveWith last interfaces config.requestAddress.toList =
      resolveText interfaces config.requestAddress.toList := by
  let z := config.interface.toList
  have address : config.requestAddress.toList =
      scopedText multicastGroup.print z (Text.decimal nodePort.toNat) := by
    unfold CollectorConfig.requestAddress multicastAddress scopedText
    rw [implicit]
    simp [z]
  have decided (last : List Char → Except AddressFault SocketAddress) :
      resolveWith last interfaces config.requestAddress.toList =
        match interfaces.scope? z with
        | none => .error (.unknownInterface config.interface)
        | some scope => .ok (.v6 multicastGroup nodePort scope) := by
    rw [address, resolveWith_scopedText last interfaces (by decide) (by decide),
      resolveScoped_multicastGroup, String.ofList_toList]
  have resolved : resolve interfaces config.requestAddress = _ :=
    congrArg (Except.mapError _) (decided (resolveHostPort interfaces))
  simp only [← Interfaces.scope?_eq_some_iff]
  refine ⟨fun a => ?_, fun e => ?_, rfl, fun last => ?_⟩
  · rw [resolved]
    cases interfaces.scope? z with
    | none => simp [Except.mapError]
    | some scope =>
      simp only [Except.mapError, Except.ok.injEq, Option.some.injEq, exists_eq_left']
      exact eq_comm
  · rw [resolved]
    cases interfaces.scope? z <;> simp [Except.mapError, eq_comm]
  · rw [resolveText_eq, decided, decided]

/-- An interface whose name looks like the end of an address, on a host that has it and on one without any. -/
theorem resolve_requestAddress_brackets :
    let config : CollectorConfig := { CollectorConfig.standard with interface := "5]:7%" }
    let interfaces : Interfaces := fun name => if name = "5]:7%" then some 9 else none
    config.requestTarget = none ∧
      resolve interfaces config.requestAddress =
        .ok (.v6 ⟨[0xff02, 0, 0, 0, 0, 0, 2, 0x1001], rfl⟩ 1001 9) ∧
      resolve (fun _ => none) config.requestAddress =
        .error ⟨"[ff02::2:1001%5]:7%]:1001", .unknownInterface "5]:7%"⟩ := by
  intro config interfaces
  have implicit : config.requestTarget = none := rfl
  obtain ⟨found, -⟩ := resolve_requestAddress interfaces implicit
  obtain ⟨-, failed, -⟩ := resolve_requestAddress (fun _ => none) implicit
  refine ⟨implicit, (found _).mpr ⟨9, Interfaces.scope?_eq_some_iff.mp (by cbv), rfl⟩,
    (failed _).mpr ⟨fun scope => ?_, by cbv⟩⟩
  rw [← Interfaces.scope?_eq_some_iff]
  have nameless : Interfaces.scope? (fun _ => none) config.interface.toList = none := by cbv
  rw [nameless]
  exact fun same => by cases same

end MeshTelemetry
