import Mathlib
import MeshTelemetry.Address.Basic

/-!
# The canonical text of an address

`SocketAddress.IsCanonical` is the rule for the text of a socket address, without the search that the
printer makes. Of the zero groups of an IPv6 address the first of the longest stretches is left out
(`IsGap`); which one that is depends on the address alone (`IsGap.unique`), and the printer's search finds
it (`isGap_longestZeroRun`). So every address has exactly one canonical text, the printed one
(`SocketAddress.isCanonical_iff`).
-/

namespace MeshTelemetry

/-! ## The rule -/

/-- Groups in hexadecimal digits with colons between them. -/
def groupsText (groups : List UInt16) : List Char :=
  [':'].intercalate (groups.map fun g => Text.Hex.ofNat g.toNat)

/-- A stretch of at least two zero groups between `head` and `tail`. No stretch is longer, and none in front
of it is as long. -/
structure IsGap (groups head tail : List UInt16) (length : Nat) : Prop where
  groups_eq : groups = head ++ List.replicate length 0 ++ tail
  several : 2 ≤ length
  longest : ∀ {head' tail' length'}, groups = head' ++ List.replicate length' 0 ++ tail' →
    length' ≤ length ∧ (length' = length → head.length ≤ head'.length)

/-- The address stands for an IPv4 address. -/
def Ipv6.IsMapped (ip : Ipv6) (inner : Ipv4) : Prop :=
  ip.groups = [0, 0, 0, 0, 0, 0xffff] ++ inner.groups

/-- The canonical text of an IPv6 address. -/
inductive Ipv6.IsCanonical (ip : Ipv6) : List Char → Prop
  /-- An IPv4 address in dotted form behind its marker. -/
  | mapped {inner : Ipv4} (stands : ip.IsMapped inner) :
    IsCanonical ip ([':', ':', 'f', 'f', 'f', 'f', ':'] ++ inner.print)
  /-- A double colon in place of the longest stretch of zero groups. -/
  | compressed {head tail : List UInt16} {length : Nat} (unmapped : ∀ inner, ¬ip.IsMapped inner)
    (gap : IsGap ip.groups head tail length) :
    IsCanonical ip (groupsText head ++ [':', ':'] ++ groupsText tail)
  /-- All groups, if no two zero groups stand together. -/
  | full (unmapped : ∀ inner, ¬ip.IsMapped inner) (gapless : ¬[0, 0] <:+: ip.groups) :
    IsCanonical ip (groupsText ip.groups)

/-- The text of a scope; zero is not written. -/
def scopeText (scope : UInt32) : List Char :=
  if scope = 0 then [] else '%' :: Text.decimal scope.toNat

/-- The canonical text of a socket address. -/
inductive SocketAddress.IsCanonical : SocketAddress → List Char → Prop
  | v4 (ip : Ipv4) (port : UInt16) :
    IsCanonical (.v4 ip port) (ip.print ++ [':'] ++ Text.decimal port.toNat)
  | v6 {ip : Ipv6} {text : List Char} (address : ip.IsCanonical text) (port : UInt16)
    (scope : UInt32) : IsCanonical (.v6 ip port scope)
      (['['] ++ text ++ scopeText scope ++ [']', ':'] ++ Text.decimal port.toNat)

/-! ## Addresses that stand for IPv4 addresses -/

/-- Two groups hold four bytes. -/
theorem Ipv4.groups_of_halves (high low : UInt16) :
    Ipv4.groups ⟨(high / 256).toUInt8, high.toUInt8, (low / 256).toUInt8, low.toUInt8⟩ = [high, low] := by
  have joined (g : UInt16) : (g / 256).toUInt8.toUInt16 * 256 + g.toUInt8.toUInt16 = g := by
    have bound : g.toNat < 65536 := g.toNat_lt
    apply UInt16.toNat_inj.mp
    simp only [UInt16.toNat_add, UInt16.toNat_mul, UInt8.toNat_toUInt16, UInt16.toNat_toUInt8,
      UInt16.toNat_div, UInt16.reduceToNat]
    omega
  simp only [Ipv4.groups, joined]

theorem Ipv4.groups_injective : Function.Injective Ipv4.groups := by
  rintro ⟨a, b, c, d⟩ ⟨a', b', c', d'⟩ same
  have halves {high low high' low' : UInt8}
      (equal : high.toUInt16 * 256 + low.toUInt16 = high'.toUInt16 * 256 + low'.toUInt16) :
      high = high' ∧ low = low' := by
    have values := congrArg UInt16.toNat equal
    have := high.toNat_lt
    have := low.toNat_lt
    have := high'.toNat_lt
    have := low'.toNat_lt
    simp only [UInt16.toNat_add, UInt16.toNat_mul, UInt8.toNat_toUInt16, UInt16.reduceToNat] at values
    exact ⟨UInt8.toNat_inj.mp (by omega), UInt8.toNat_inj.mp (by omega)⟩
  simp only [Ipv4.groups, List.cons.injEq, and_true] at same
  obtain ⟨rfl, rfl⟩ := halves same.1
  obtain ⟨rfl, rfl⟩ := halves same.2
  rfl

theorem Ipv6.mapped?_eq_some_iff {ip : Ipv6} {inner : Ipv4} :
    ip.mapped? = some inner ↔ ip.IsMapped inner := by
  unfold Ipv6.mapped? Ipv6.IsMapped
  constructor
  · intro found
    split at found
    · rename_i high low groups
      cases found
      rw [groups, Ipv4.groups_of_halves]
      rfl
    · cases found
  · intro groups
    rw [groups]
    dsimp only [Ipv4.groups, List.cons_append, List.nil_append]
    refine congrArg some (Ipv4.groups_injective ?_)
    rw [Ipv4.groups_of_halves]
    rfl

theorem Ipv6.mapped?_eq_none_iff {ip : Ipv6} :
    ip.mapped? = none ↔ ∀ inner, ¬ip.IsMapped inner := by
  simp only [← Ipv6.mapped?_eq_some_iff, Option.eq_none_iff_forall_ne_some, ne_eq]

/-! ## The longest stretch of zero groups -/

section

variable {groups head tail : List UInt16} {length start : Nat}

/-- From any place on there is a stretch of zero groups as long as it is counted there. -/
theorem groups_eq_of_zeroRun (groups : List UInt16) (start : Nat) :
    groups = groups.take start ++ List.replicate (zeroRun groups start) 0 ++
      groups.drop (start + zeroRun groups start) := by
  have front : (groups.drop start).takeWhile (· = 0) =
      (groups.drop start).take (zeroRun groups start) :=
    List.prefix_iff_eq_take.mp (List.takeWhile_prefix _)
  have zeros : (groups.drop start).take (zeroRun groups start) =
      List.replicate (zeroRun groups start) 0 := by
    rw [← front]
    exact List.eq_replicate_iff.mpr ⟨rfl, fun g inside => by simpa using List.mem_takeWhile_imp inside⟩
  rw [← zeros, ← List.drop_drop, List.append_assoc, List.take_append_drop, List.take_append_drop]

/-- No stretch of zero groups is longer than it is counted from its place on. -/
theorem le_zeroRun (split : groups = head ++ List.replicate length 0 ++ tail) :
    length ≤ zeroRun groups head.length := by
  have zeros : ∀ g ∈ List.replicate length (0 : UInt16), decide (g = 0) = true := by
    intro g inside
    simpa using List.eq_of_mem_replicate inside
  unfold zeroRun
  rw [split, List.append_assoc, List.drop_left, List.takeWhile_append_of_pos zeros]
  simp

/-- The search so far has found the first of the longest stretches that begin before `count`. -/
structure IsLongest (groups : List UInt16) (count : Nat) (best : Nat × Nat) : Prop where
  start_le : best.1 ≤ count
  length_eq : 0 < best.2 → best.2 = zeroRun groups best.1
  longest : ∀ start < count, zeroRun groups start ≤ best.2
  first : ∀ start < count, zeroRun groups start = best.2 → best.1 ≤ start

theorem isLongest_longestZeroRun (groups : List UInt16) :
    IsLongest groups groups.length (longestZeroRun groups) := by
  unfold longestZeroRun
  induction groups.length with
  | zero => exact ⟨Nat.le_refl 0, fun found => absurd found (Nat.lt_irrefl 0), by simp, by simp⟩
  | succ count ih =>
    rw [List.range_succ, List.foldl_append, List.foldl_cons, List.foldl_nil]
    generalize (List.range count).foldl _ (0, 0) = best at ih ⊢
    split
    · rename_i better
      refine ⟨Nat.le_succ count, fun _ => rfl, fun start before => ?_, fun start before same => ?_⟩
      · rcases Nat.lt_succ_iff_lt_or_eq.mp before with earlier | rfl
        · exact Nat.le_of_lt (Nat.lt_of_le_of_lt (ih.longest start earlier) better)
        · exact Nat.le_refl _
      · rcases Nat.lt_succ_iff_lt_or_eq.mp before with earlier | rfl
        · have shorter := ih.longest start earlier
          dsimp only at same
          omega
        · exact Nat.le_refl _
    · rename_i worse
      refine ⟨Nat.le_succ_of_le ih.start_le, ih.length_eq, fun start before => ?_, fun start before same => ?_⟩
      · rcases Nat.lt_succ_iff_lt_or_eq.mp before with earlier | rfl
        · exact ih.longest start earlier
        · exact Nat.le_of_not_lt worse
      · rcases Nat.lt_succ_iff_lt_or_eq.mp before with earlier | rfl
        · exact ih.first start earlier same
        · exact ih.start_le

/-- The printer's search finds the gap, if there are two zero groups side by side. -/
theorem isGap_longestZeroRun (several : 1 < (longestZeroRun groups).2) :
    IsGap groups (groups.take (longestZeroRun groups).1)
      (groups.drop ((longestZeroRun groups).1 + (longestZeroRun groups).2))
      (longestZeroRun groups).2 := by
  have search := isLongest_longestZeroRun groups
  have counted := search.length_eq (Nat.lt_of_succ_lt several)
  refine ⟨?_, several, fun {head' tail' length'} split => ?_⟩
  · rw [counted]
    exact groups_eq_of_zeroRun groups _
  · have lengths := congrArg List.length split
    simp only [List.length_append, List.length_replicate] at lengths
    have room := le_zeroRun split
    by_cases empty : length' = 0
    · omega
    · have before : head'.length < groups.length := by omega
      have bound := search.longest _ before
      refine ⟨Nat.le_trans room bound, fun same => ?_⟩
      have first := search.first _ before (by omega)
      exact Nat.le_trans (List.length_take_le _ _) first

theorem not_infix_of_longestZeroRun (single : ¬1 < (longestZeroRun groups).2) :
    ¬[0, 0] <:+: groups := by
  rintro ⟨head, tail, split⟩
  have stretch : groups = head ++ List.replicate 2 0 ++ tail := split.symm
  have room := le_zeroRun stretch
  have lengths := congrArg List.length split
  simp only [List.length_append, List.length_cons, List.length_nil] at lengths
  have bound := (isLongest_longestZeroRun groups).longest head.length (by omega)
  omega

/-- The gap of an address is determined. -/
theorem IsGap.unique {head' tail' : List UInt16} {length' : Nat} (gap : IsGap groups head tail length)
    (other : IsGap groups head' tail' length') : head = head' ∧ tail = tail' := by
  have notLonger := gap.longest other.groups_eq
  have notShorter := other.longest gap.groups_eq
  have lengths : length = length' := Nat.le_antisymm notShorter.1 notLonger.1
  subst lengths
  have heads : head.length = head'.length := Nat.le_antisymm (notLonger.2 rfl) (notShorter.2 rfl)
  have same := gap.groups_eq.symm.trans other.groups_eq
  have fronts := List.append_inj same (by simp [heads])
  exact ⟨(List.append_inj fronts.1 heads).1, fronts.2⟩

theorem IsGap.infix (gap : IsGap groups head tail length) : [0, 0] <:+: groups := by
  obtain ⟨more, rfl⟩ := Nat.exists_eq_add_of_le' gap.several
  refine ⟨head, List.replicate more 0 ++ tail, ?_⟩
  rw [gap.groups_eq, List.replicate_succ, List.replicate_succ]
  simp

end

/-! ## The printed text -/

theorem printGroups_eq (groups : List UInt16) : printGroups groups = groupsText groups := by
  match groups with
  | [] => rfl
  | [g] => simp [printGroups, groupsText, List.intercalate]
  | g :: h :: rest =>
    have ih := printGroups_eq (h :: rest)
    rw [printGroups, ih]
    · simp [groupsText, List.intercalate]
    · simp

theorem Ipv6.isCanonical_print (ip : Ipv6) : ip.IsCanonical ip.print := by
  unfold Ipv6.print
  split
  · rename_i inner stands
    exact .mapped (Ipv6.mapped?_eq_some_iff.mp stands)
  · rename_i none
    have unmapped := Ipv6.mapped?_eq_none_iff.mp none
    simp only [printGroups_eq]
    split
    · rename_i several
      have canonical := Ipv6.IsCanonical.compressed unmapped (isGap_longestZeroRun several)
      rw [List.append_assoc] at canonical
      exact canonical
    · rename_i single
      exact .full unmapped (not_infix_of_longestZeroRun single)

theorem Ipv6.IsCanonical.unique {ip : Ipv6} {text other : List Char} (canonical : ip.IsCanonical text)
    (again : ip.IsCanonical other) : text = other := by
  cases canonical with
  | mapped stands =>
    cases again with
    | mapped stands' =>
      have inner := Ipv4.groups_injective (List.append_cancel_left (stands.symm.trans stands'))
      rw [inner]
    | compressed unmapped _ => exact absurd stands (unmapped _)
    | full unmapped _ => exact absurd stands (unmapped _)
  | compressed unmapped gap =>
    cases again with
    | mapped stands => exact absurd stands (unmapped _)
    | compressed _ gap' =>
      obtain ⟨rfl, rfl⟩ := gap.unique gap'
      rfl
    | full _ gapless => exact absurd gap.infix gapless
  | full unmapped gapless =>
    cases again with
    | mapped stands => exact absurd stands (unmapped _)
    | compressed _ gap => exact absurd gap.infix gapless
    | full => rfl

theorem SocketAddress.isCanonical_print (a : SocketAddress) : a.IsCanonical a.print := by
  cases a with
  | v4 ip port =>
    have canonical := SocketAddress.IsCanonical.v4 ip port
    rwa [List.append_assoc] at canonical
  | v6 ip port scope =>
    have canonical := SocketAddress.IsCanonical.v6 ip.isCanonical_print port scope
    simpa [SocketAddress.print, scopeText] using canonical

theorem SocketAddress.IsCanonical.unique {a : SocketAddress} {text other : List Char}
    (canonical : a.IsCanonical text) (again : a.IsCanonical other) : text = other := by
  cases canonical with
  | v4 => cases again; rfl
  | v6 address port scope =>
    cases again with
    | v6 address' => rw [address.unique address']

/-- An address has exactly one canonical text, and that is the printed one. -/
theorem SocketAddress.isCanonical_iff {a : SocketAddress} {text : List Char} :
    a.IsCanonical text ↔ text = a.print := by
  constructor
  · exact fun canonical => canonical.unique a.isCanonical_print
  · rintro rfl
    exact a.isCanonical_print

end MeshTelemetry
