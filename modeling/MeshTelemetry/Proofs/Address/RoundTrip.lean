import Mathlib
import MeshTelemetry.Proofs.Address.Canonical
import MeshTelemetry.Proofs.Address.Stages

/-!
# Reading the canonical text of an address

Every reader of a part of an address is followed through the canonical text of that part, whatever stands
behind it, as long as this does not go on with the part: behind a group no digit and no dot
(`scanGroups_group`), behind an address a foreign character (`Ipv6.scan_of_isCanonical`).

So a canonical text is taken up by the first stage of resolving, and names its address on every host
(`resolve_text`).
-/

namespace MeshTelemetry

open Text (Ends takeWhile_of_ends dropWhile_of_ends takeWhile_append_ends dropWhile_append_ends)

/-! ## Digits -/

theorem isHexDigit_of_isDigit {c : Char} (digit : c.isDigit = true) : isHexDigit c = true := by
  have bounds : '0' ≤ c ∧ c ≤ '9' := by
    simpa [Char.isDigit, Char.le_def] using digit
  simp [isHexDigit, Text.Hex.value?, bounds]

theorem ends_isDigit {rest : List Char} (ends : Ends isHexDigit rest) : Ends Char.isDigit rest := by
  intro c inside
  have outside := ends c inside
  by_contra digit
  rw [isHexDigit_of_isDigit (by simpa using digit)] at outside
  cases outside

/-! ## Numbers and dotted quads -/

section

variable {limit n : Nat} {digits rest : List Char}

theorem scanNatural_decimal (fits : n ≤ limit) (ends : Ends Char.isDigit rest) :
    scanNatural limit (Text.decimal n ++ rest) = some (n, rest) := by
  have all : ∀ c ∈ Text.decimal n, c.isDigit = true := fun _ => Text.isDigit_of_mem_decimal
  have present : Text.decimal n ≠ [] := Nat.toDigits_ne_nil
  unfold scanNatural
  rw [takeWhile_append_ends all ends, dropWhile_append_ends all ends]
  dsimp only
  rw [Text.digitsValue_decimal, if_pos ⟨present, fits⟩]

theorem scanOctet_decimal (b : UInt8) (ends : Ends Char.isDigit rest) :
    scanOctet (Text.decimal b.toNat ++ rest) = some (b, rest) := by
  have bound : b.toNat < 256 := b.toNat_lt
  have all : ∀ c ∈ Text.decimal b.toNat, c.isDigit = true := fun _ => Text.isDigit_of_mem_decimal
  have present : Text.decimal b.toNat ≠ [] := Nat.toDigits_ne_nil
  have short : (Text.decimal b.toNat).length ≤ 3 :=
    (Nat.length_toDigits_le_iff (by decide) (by decide)).mpr (by omega)
  unfold scanOctet
  rw [takeWhile_append_ends all ends, dropWhile_append_ends all ends]
  dsimp only
  rw [Text.digitsValue_decimal, if_neg, UInt8.ofNat_toNat]
  rintro (empty | long | ⟨leading, more⟩ | large)
  · exact present empty
  · omega
  · exact more (Text.decimal_of_leading_zero leading)
  · omega

theorem scanOctet_eq_none (ends : Ends Char.isDigit rest) : scanOctet rest = none := by
  unfold scanOctet
  rw [takeWhile_of_ends ends]
  simp

/-- Behind a byte the text goes on without digits. -/
theorem eq_dropWhile_of_scanOctet {text : List Char} {b : UInt8}
    (octet : scanOctet text = some (b, rest)) : rest = text.dropWhile Char.isDigit := by
  unfold scanOctet at octet
  dsimp only at octet
  split at octet
  · cases octet
  · cases octet
    rfl

theorem scanChar_cons (c : Char) (rest : List Char) : scanChar c (c :: rest) = some ((), rest) := by
  rw [scanChar, if_pos rfl]

theorem scanChar_eq_none {c : Char} (other : rest.head? ≠ some c) : scanChar c rest = none := by
  cases rest with
  | nil => rfl
  | cons d more =>
    have different : d ≠ c := fun same => other (congrArg some same)
    rw [scanChar, if_neg different]

theorem Ipv4.scan_print (ip : Ipv4) (ends : Ends Char.isDigit rest) :
    Ipv4.scan (ip.print ++ rest) = some (ip, rest) := by
  have dot (more : List Char) : Ends Char.isDigit ('.' :: more) := .cons (by decide) more
  unfold Ipv4.scan Ipv4.print
  simp only [List.append_assoc, List.cons_append, scanOctet_decimal _ (dot _),
    scanOctet_decimal _ ends, scanChar_cons, Option.bind_eq_bind, Option.bind_some]
  rfl

theorem Ipv4.scan_eq_none_of_octet (nothing : scanOctet rest = none) : Ipv4.scan rest = none := by
  unfold Ipv4.scan
  rw [nothing]
  rfl

/-- Hexadecimal digits are no dotted quad without a dot behind them. -/
theorem Ipv4.scan_eq_none (all : ∀ c ∈ digits, isHexDigit c = true) (ends : Ends isHexDigit rest)
    (dotless : rest.head? ≠ some '.') : Ipv4.scan (digits ++ rest) = none := by
  have undotted : ((digits ++ rest).dropWhile Char.isDigit).head? ≠ some '.' := by
    induction digits with
    | nil => rwa [List.nil_append, dropWhile_of_ends (ends_isDigit ends)]
    | cons c digits ih =>
      have hex := all c (List.mem_cons_self ..)
      rw [List.cons_append, List.dropWhile_cons]
      split
      · exact ih fun d inside => all d (List.mem_cons_of_mem _ inside)
      · rintro ⟨⟩
        exact absurd hex (by decide)
  cases octet : scanOctet (digits ++ rest) with
  | none => exact Ipv4.scan_eq_none_of_octet octet
  | some p =>
    obtain ⟨a, behind⟩ := p
    rw [← eq_dropWhile_of_scanOctet octet] at undotted
    have stuck : scanChar '.' behind = none := scanChar_eq_none undotted
    unfold Ipv4.scan
    rw [octet]
    dsimp only [bind, Option.bind]
    rw [stuck]

end

/-! ## Groups -/

theorem value?_digitChar : ∀ d < 16, Text.Hex.value? (Nat.digitChar d) = some d := by
  decide

theorem isHexDigit_of_mem_ofNat {n : Nat} {c : Char} (inside : c ∈ Text.Hex.ofNat n) :
    isHexDigit c = true := by
  induction n using Nat.strongRecOn with
  | ind n ih =>
    have last : isHexDigit (Nat.digitChar (n % 16)) = true := by
      unfold isHexDigit
      rw [value?_digitChar _ (Nat.mod_lt n (by decide))]
      rfl
    unfold Text.Hex.ofNat at inside ih
    rw [Nat.toDigits_eq_if (by decide)] at inside
    split at inside
    · rename_i small
      rw [List.mem_singleton.mp inside, ← Nat.mod_eq_of_lt small]
      exact last
    · rcases List.mem_append.mp inside with front | back
      · exact ih (n / 16) (by omega) front
      · rw [List.mem_singleton.mp back]
        exact last

theorem hexDigitsValue_ofNat (n : Nat) : hexDigitsValue (Text.Hex.ofNat n) = n := by
  induction n using Nat.strongRecOn with
  | ind n ih =>
    unfold Text.Hex.ofNat at ih ⊢
    rw [Nat.toDigits_eq_if (by decide)]
    split
    · rename_i small
      simp [hexDigitsValue, value?_digitChar n small]
    · have front := ih (n / 16) (by omega)
      unfold hexDigitsValue at front ⊢
      rw [List.foldl_append, front, List.foldl_cons, List.foldl_nil,
        value?_digitChar _ (Nat.mod_lt n (by decide))]
      exact Nat.div_add_mod n 16

section

variable {rest : List Char}

theorem scanGroup_ofNat (g : UInt16) (ends : Ends isHexDigit rest) :
    scanGroup (Text.Hex.ofNat g.toNat ++ rest) = some (g, rest) := by
  have bound : g.toNat < 65536 := g.toNat_lt
  have all : ∀ c ∈ Text.Hex.ofNat g.toNat, isHexDigit c = true := fun _ => isHexDigit_of_mem_ofNat
  have present : Text.Hex.ofNat g.toNat ≠ [] := Nat.toDigits_ne_nil
  have short : (Text.Hex.ofNat g.toNat).length ≤ 4 :=
    (Nat.length_toDigits_le_iff (by decide) (by decide)).mpr (by omega)
  unfold scanGroup
  rw [takeWhile_append_ends all ends, dropWhile_append_ends all ends]
  dsimp only
  rw [hexDigitsValue_ofNat, if_neg, UInt16.ofNat_toNat]
  rintro (empty | long)
  · exact present empty
  · omega

theorem scanGroup_eq_none (ends : Ends isHexDigit rest) : scanGroup rest = none := by
  unfold scanGroup
  rw [takeWhile_of_ends ends]
  simp

/-- What stands behind a group does not go on with it. -/
structure BehindGroup (rest : List Char) : Prop where
  ends : Ends isHexDigit rest
  dotless : rest.head? ≠ some '.'

/-- What stands behind the last group does not go on with another one. -/
structure BehindGroups (rest : List Char) : Prop extends BehindGroup rest where
  last : ∀ more, rest = ':' :: more → Ends isHexDigit more

theorem behindGroup_colon (more : List Char) : BehindGroup (':' :: more) :=
  ⟨.cons (by decide) more, by simp⟩

theorem behindGroups_colons (more : List Char) : BehindGroups (':' :: ':' :: more) where
  toBehindGroup := behindGroup_colon _
  last := by
    rintro _ ⟨⟩
    exact .cons (by decide) more

theorem behindGroups_foreign {c : Char} (foreign : Foreign c) (more : List Char) :
    BehindGroups (c :: more) where
  ends := .cons foreign.hex more
  dotless same := foreign.dot (Option.some.inj same)
  last := by
    rintro _ ⟨⟩
    exact absurd rfl foreign.colon

theorem afterColon_eq_none {α : Type} {scan : Scanner α} (first : Bool) (nothing : scan rest = none)
    (behind : ∀ more, rest = ':' :: more → scan more = none) : afterColon first scan rest = none := by
  unfold afterColon
  split
  · exact nothing
  · cases colon : scanChar ':' rest with
    | none => rfl
    | some p =>
      exact behind p.2 (eq_cons_of_scanChar colon)

/-- There is no group where none goes on. -/
theorem scanGroups_of_behindGroups (behind : BehindGroups rest) (first : Bool) (limit : Nat) :
    scanGroups first limit rest = ([], false, rest) := by
  cases limit with
  | zero => rfl
  | succ limit =>
    have quad : afterColon first Ipv4.scan rest = none :=
      afterColon_eq_none first (Ipv4.scan_eq_none_of_octet (scanOctet_eq_none (ends_isDigit behind.ends)))
        fun more here => Ipv4.scan_eq_none_of_octet (scanOctet_eq_none (ends_isDigit (behind.last more here)))
    have group : afterColon first scanGroup rest = none :=
      afterColon_eq_none first (scanGroup_eq_none behind.ends)
        fun more here => scanGroup_eq_none (behind.last more here)
    simp only [scanGroups, quad, group, ite_self]

/-- The colon in front of a group, unless it is the first. -/
def lead (first : Bool) : List Char :=
  if first then [] else [':']

theorem afterColon_lead {α : Type} (first : Bool) (scan : Scanner α) (text : List Char) :
    afterColon first scan (lead first ++ text) = scan text := by
  cases first <;> rfl

/-- A group is read, and then those behind it. -/
theorem scanGroups_group (first : Bool) (limit : Nat) (g : UInt16) (behind : BehindGroup rest) :
    scanGroups first (limit + 1) (lead first ++ (Text.Hex.ofNat g.toNat ++ rest)) =
      (g :: (scanGroups false limit rest).1, (scanGroups false limit rest).2) := by
  have quad : Ipv4.scan (Text.Hex.ofNat g.toNat ++ rest) = none :=
    Ipv4.scan_eq_none (fun _ => isHexDigit_of_mem_ofNat) behind.ends behind.dotless
  simp only [scanGroups, afterColon_lead, quad, ite_self, scanGroup_ofNat g behind.ends]

/-- Groups that others stand in front of. -/
def furtherGroups (groups : List UInt16) : List Char :=
  groups.flatMap fun g => ':' :: Text.Hex.ofNat g.toNat

theorem groupsText_cons (g : UInt16) (groups : List UInt16) :
    groupsText (g :: groups) = Text.Hex.ofNat g.toNat ++ furtherGroups groups := by
  induction groups generalizing g with
  | nil => simp [groupsText, furtherGroups, List.intercalate]
  | cons h groups ih =>
    have tail := ih h
    simp only [groupsText, furtherGroups, List.intercalate, List.map_cons,
      List.intersperse_cons_cons, List.flatten_cons, List.flatMap_cons] at tail ⊢
    rw [tail]
    simp

theorem behindGroup_furtherGroups (groups : List UInt16) (behind : BehindGroups rest) :
    BehindGroup (furtherGroups groups ++ rest) := by
  cases groups with
  | nil => exact behind.toBehindGroup
  | cons g groups => exact behindGroup_colon _

theorem scanGroups_furtherGroups {groups : List UInt16} {limit : Nat} (room : groups.length ≤ limit)
    (behind : BehindGroups rest) :
    scanGroups false limit (furtherGroups groups ++ rest) = (groups, false, rest) := by
  induction groups generalizing limit with
  | nil => exact scanGroups_of_behindGroups behind false limit
  | cons g groups ih =>
    obtain ⟨limit, rfl⟩ := Nat.exists_eq_add_one.mpr (Nat.lt_of_lt_of_le (Nat.succ_pos _) room)
    have step := scanGroups_group false limit g (behindGroup_furtherGroups groups behind)
    rw [ih (Nat.le_of_succ_le_succ room)] at step
    rw [furtherGroups, List.flatMap_cons, ← furtherGroups, List.append_assoc]
    exact step

/-- Groups are read up to what stands behind them. -/
theorem scanGroups_groupsText {groups : List UInt16} {limit : Nat} (room : groups.length ≤ limit)
    (behind : BehindGroups rest) :
    scanGroups true limit (groupsText groups ++ rest) = (groups, false, rest) := by
  cases groups with
  | nil => exact scanGroups_of_behindGroups behind true limit
  | cons g groups =>
    obtain ⟨limit, rfl⟩ := Nat.exists_eq_add_one.mpr (Nat.lt_of_lt_of_le (Nat.succ_pos _) room)
    have step := scanGroups_group true limit g (behindGroup_furtherGroups groups behind)
    rw [scanGroups_furtherGroups (Nat.le_of_succ_le_succ room) behind] at step
    rw [groupsText_cons, List.append_assoc]
    exact step

/-- A dotted quad behind a group stands for the last two. -/
theorem scanGroups_quad (limit : Nat) (ip : Ipv4) (ends : Ends Char.isDigit rest) :
    scanGroups false (limit + 2) (':' :: (ip.print ++ rest)) = (ip.groups, true, rest) := by
  have quad : afterColon false Ipv4.scan (':' :: (ip.print ++ rest)) = some (ip, rest) :=
    (afterColon_lead false Ipv4.scan _).trans (ip.scan_print ends)
  rw [scanGroups, if_neg (Nat.succ_ne_zero limit), quad]

end

/-! ## IPv6 addresses -/

theorem Ipv6.ofGroups?_eq {ip : Ipv6} {groups : List UInt16} (same : groups = ip.groups) :
    Ipv6.ofGroups? groups = some ip := by
  subst same
  rw [Ipv6.ofGroups?, dif_pos ip.length_eq]

section

variable {ip : Ipv6} {rest : List Char}

/-- An address with a double colon, from what is read before and behind it. -/
theorem Ipv6.scan_of_halves {text between : List Char} {head tail : List UInt16} {quad : Bool}
    {length : Nat} (groups : ip.groups = head ++ List.replicate length 0 ++ tail)
    (present : 0 < length) (first : scanGroups true 8 text = (head, false, ':' :: ':' :: between))
    (second : scanGroups true (7 - head.length) between = (tail, quad, rest)) :
    Ipv6.scan text = some (ip, rest) := by
  have lengths : head.length + length + tail.length = 8 := by
    rw [← ip.length_eq, groups]
    simp [Nat.add_assoc]
  have zeros : 8 - head.length - tail.length = length := by omega
  have short : head.length ≠ 8 := by omega
  unfold Ipv6.scan
  simp only [first, second, short, zeros, scanChar_cons, if_false, Bool.false_eq_true,
    Option.bind_eq_bind, Option.bind_some, Ipv6.ofGroups?_eq groups.symm]
  rfl

/-- The canonical text of an IPv6 address is read as that address. -/
theorem Ipv6.scan_of_isCanonical {text : List Char} {c : Char} (canonical : ip.IsCanonical text)
    (foreign : Foreign c) (more : List Char) :
    Ipv6.scan (text ++ c :: more) = some (ip, c :: more) := by
  have behind := behindGroups_foreign foreign more
  have whole := ip.length_eq
  cases canonical with
  | @mapped inner stands =>
    have marker := scanGroups_group true 6 0xffff (behindGroup_colon (inner.print ++ c :: more))
    rw [scanGroups_quad 4 inner (.cons foreign.digit more)] at marker
    have groups : ip.groups = [] ++ List.replicate 5 0 ++ 0xffff :: inner.groups := stands
    exact Ipv6.scan_of_halves groups (by decide)
      (scanGroups_of_behindGroups (behindGroups_colons _) true 8) marker
  | @compressed head tail length _ gap =>
    have groups := gap.groups_eq
    have several := gap.several
    rw [groups] at whole
    simp only [List.length_append, List.length_replicate] at whole
    have front : head.length ≤ 8 := by omega
    have back : tail.length ≤ 7 - head.length := by omega
    have first := scanGroups_groupsText front (behindGroups_colons (groupsText tail ++ c :: more))
    have second := scanGroups_groupsText back behind
    rw [List.append_assoc, List.append_assoc]
    exact Ipv6.scan_of_halves groups (by omega) first second
  | full _ _ =>
    have all := scanGroups_groupsText (Nat.le_of_eq whole) behind
    unfold Ipv6.scan
    simp only [all, whole, if_true, Option.bind_eq_bind, Option.bind_some, Ipv6.ofGroups?_eq rfl]
    rfl

end

/-! ## Socket addresses -/

theorem scanPort_decimal (port : UInt16) :
    scanPort (':' :: Text.decimal port.toNat) = some (port, []) := by
  have bound : port.toNat < 65536 := port.toNat_lt
  have fits : port.toNat ≤ 65535 := by omega
  have number := scanNatural_decimal fits (Text.ends_nil Char.isDigit)
  rw [List.append_nil] at number
  unfold scanPort
  simp only [scanChar_cons, number, Option.bind_eq_bind, Option.bind_some, UInt16.ofNat_toNat]
  rfl

theorem scanScope_scopeText (scope : UInt32) (more : List Char) :
    scanScope (scopeText scope ++ ']' :: more) = (scope, ']' :: more) := by
  have bound : scope.toNat < 4294967296 := scope.toNat_lt
  unfold scopeText
  split
  · rename_i zero
    rw [zero]
    rfl
  · have fits : scope.toNat ≤ 4294967295 := by omega
    have number := scanNatural_decimal fits (.cons (by decide : ']'.isDigit = false) more)
    unfold scanScope
    rw [List.cons_append, scanChar_cons]
    dsimp only
    rw [number]
    dsimp only
    rw [UInt32.ofNat_toNat]

/-- Behind an address there is a scope or the closing bracket. -/
theorem exists_foreign_scopeText (scope : UInt32) (more : List Char) :
    ∃ c rest, Foreign c ∧ scopeText scope ++ ']' :: more = c :: rest := by
  unfold scopeText
  split
  · exact ⟨']', more, foreign_bracket, rfl⟩
  · exact ⟨'%', _, foreign_percent, rfl⟩

theorem SocketAddress.parse?_of_isCanonical {a : SocketAddress} {text : List Char}
    (canonical : a.IsCanonical text) : SocketAddress.parse? text = some a := by
  cases canonical with
  | v4 ip port =>
    have quad := ip.scan_print (.cons (by decide : ':'.isDigit = false) (Text.decimal port.toNat))
    have read : scanSocketV4 (ip.print ++ ':' :: Text.decimal port.toNat) =
        some (.v4 ip port, []) := by
      unfold scanSocketV4
      simp only [quad, scanPort_decimal, Option.bind_eq_bind, Option.bind_some]
      rfl
    unfold SocketAddress.parse?
    rw [List.append_assoc, List.cons_append, List.nil_append, read]
    rfl
  | @v6 ip text address port scope =>
    have inside := exists_foreign_scopeText scope (':' :: Text.decimal port.toNat)
    obtain ⟨c, rest, foreign, front⟩ := inside
    have read : scanSocketV6 ('[' :: (text ++ (scopeText scope ++
        ']' :: ':' :: Text.decimal port.toNat))) = some (.v6 ip port scope, []) := by
      unfold scanSocketV6
      simp only [scanChar_cons, front, Ipv6.scan_of_isCanonical address foreign,
        Option.bind_eq_bind, Option.bind_some]
      simp only [← front, scanScope_scopeText, scanChar_cons, scanPort_decimal, Option.bind_some]
      rfl
    have other : scanSocketV4 ('[' :: (text ++ (scopeText scope ++
        ']' :: ':' :: Text.decimal port.toNat))) = none := by
      unfold scanSocketV4
      rw [Ipv4.scan_eq_none_of_octet (scanOctet_eq_none (.cons (by decide) _))]
      rfl
    unfold SocketAddress.parse?
    simp only [List.append_assoc, List.cons_append, List.nil_append, other, read, Option.none_or]

/-- Every address has one canonical text, which is the printed one: a dotted quad with a port, or an IPv6
address in brackets with its scope unless that is zero, and a port. This text names the address, on every
host, and whatever the last stage would make of it. -/
theorem resolve_text (a : SocketAddress) :
    (∀ text, a.IsCanonical text ↔ text = a.text.toList) ∧
    (∀ interfaces, resolve interfaces a.text = .ok a) ∧
    ∀ last interfaces, resolveWith last interfaces a.text.toList = .ok a := by
  have read : SocketAddress.parse? a.print = some a :=
    SocketAddress.parse?_of_isCanonical a.isCanonical_print
  have printed : a.text.toList = a.print := String.toList_ofList
  refine ⟨fun text => ?_, fun interfaces => ?_, fun last interfaces => ?_⟩
  · rw [printed]
    exact SocketAddress.isCanonical_iff
  · unfold resolve resolveText
    rw [printed, read]
    rfl
  · unfold resolveWith
    rw [printed, read]

/-- Of two equally long stretches of zero groups the first is left out. -/
example : SocketAddress.text (.v6 ⟨[0xfe80, 0, 0, 0xab, 0, 0, 0xc, 1], rfl⟩ 1001 3) =
    "[fe80::ab:0:0:c:1%3]:1001" := by
  decide

end MeshTelemetry
