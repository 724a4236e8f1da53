import Mathlib.Algebra.BigOperators.Group.List.Basic
import Mathlib.Algebra.Ring.Nat
import Mathlib.Data.List.Induction
import MeshTelemetry.GlobalStats
import MeshTelemetry.Proofs.Entries

/-!
# Counting names

`Tally.bump` counts a name once more. It keeps the names of a tally in order (`Tally.ascending_bump`),
raises the count of its name by one and leaves all other counts alone (`Tally.lookup_bump`). Two names
are counted in either order (`Tally.bump_comm`).

`Tally.ofNames` counts the names of a list, so that every name that occurs has the number of its
occurrences as its count, modulo what a count can hold (`Tally.lookup_ofNames`).
-/

namespace MeshTelemetry

/-! ## One name after another -/

section

variable {name other : String} {n : UInt32} {rest : Tally}

theorem Tally.bump_nil : Tally.bump name [] = [(name, 1)] := rfl

theorem Tally.bump_same : Tally.bump name ((name, n) :: rest) = (name, n + 1) :: rest :=
  if_pos rfl

theorem Tally.bump_before (distinct : name ≠ other) (before : name < other) :
    Tally.bump name ((other, n) :: rest) = (name, 1) :: (other, n) :: rest :=
  (if_neg distinct).trans (if_pos before)

theorem Tally.bump_behind (distinct : name ≠ other) (behind : ¬name < other) :
    Tally.bump name ((other, n) :: rest) = (other, n) :: Tally.bump name rest :=
  (if_neg distinct).trans (if_neg behind)

end

theorem Tally.bump_comm_of_lt {a b : String} (less : a < b) (t : Tally) :
    Tally.bump a (Tally.bump b t) = Tally.bump b (Tally.bump a t) := by
  have distinct : a ≠ b := fun same => String.lt_irrefl b (same ▸ less)
  have unreached : ¬b < a := String.lt_asymm less
  induction t with
  | nil =>
    rw [bump_nil, bump_nil, bump_before distinct less, bump_behind distinct.symm unreached, bump_nil]
  | cons entry rest ih =>
    obtain ⟨name, n⟩ := entry
    rcases eq_or_ne b name with rfl | past
    · rw [bump_same, bump_before distinct less, bump_before distinct less,
        bump_behind distinct.symm unreached, bump_same]
    by_cases before : b < name
    · have first : a < name := String.lt_trans less before
      have new : a ≠ name := fun same => String.lt_irrefl name (same ▸ first)
      rw [bump_before past before, bump_before distinct less, bump_before new first,
        bump_behind distinct.symm unreached, bump_before past before]
    · rcases eq_or_ne a name with rfl | new
      · rw [bump_behind past before, bump_same, bump_same, bump_behind past before]
      by_cases first : a < name
      · rw [bump_behind past before, bump_before new first, bump_before new first,
          bump_behind distinct.symm unreached, bump_behind past before]
      · rw [bump_behind past before, bump_behind new first, bump_behind new first,
          bump_behind past before, ih]

/-- Two names are counted in either order. -/
theorem Tally.bump_comm (a b : String) (t : Tally) :
    Tally.bump a (Tally.bump b t) = Tally.bump b (Tally.bump a t) := by
  rcases eq_or_ne a b with rfl | distinct
  · rfl
  rcases String.le_total a b with le | le
  · exact Tally.bump_comm_of_lt (Std.lt_of_le_of_ne le distinct) t
  · exact (Tally.bump_comm_of_lt (Std.lt_of_le_of_ne le distinct.symm) t).symm

theorem Tally.bump?_comm (a b : Option String) (t : Tally) :
    Tally.bump? a (Tally.bump? b t) = Tally.bump? b (Tally.bump? a t) := by
  cases a with
  | none => rfl
  | some a =>
    cases b with
    | none => rfl
    | some b => exact Tally.bump_comm a b t

/-! ## Order -/

/-- The names ascend, so that none of them has two counts. -/
def Tally.Ascending (t : Tally) : Prop :=
  t.Pairwise fun a b => a.1 < b.1

theorem Tally.fst_of_mem_bump {name : String} {t : Tally} {e : String × UInt32}
    (mem : e ∈ t.bump name) : e.1 = name ∨ ∃ x ∈ t, x.1 = e.1 := by
  fun_induction Tally.bump name t with
  | case1 => exact .inl (List.mem_singleton.mp mem ▸ rfl)
  | case2 n rest =>
    rcases List.mem_cons.mp mem with rfl | mem
    · exact .inl rfl
    · exact .inr ⟨e, List.mem_cons_of_mem _ mem, rfl⟩
  | case3 other n rest distinct before =>
    rcases List.mem_cons.mp mem with rfl | mem
    · exact .inl rfl
    · exact .inr ⟨e, mem, rfl⟩
  | case4 other n rest distinct behind ih =>
    rcases List.mem_cons.mp mem with rfl | mem
    · exact .inr ⟨_, List.mem_cons_self .., rfl⟩
    · rcases ih mem with here | ⟨x, inside, key⟩
      · exact .inl here
      · exact .inr ⟨x, List.mem_cons_of_mem _ inside, key⟩

theorem Tally.ascending_bump {t : Tally} (ascending : t.Ascending) (name : String) :
    (t.bump name).Ascending := by
  fun_induction Tally.bump name t with
  | case1 => exact List.pairwise_singleton _ _
  | case2 n rest => exact List.pairwise_cons.mpr (List.pairwise_cons.mp ascending)
  | case3 other n rest distinct before =>
    refine List.pairwise_cons.mpr ⟨fun e mem => ?_, ascending⟩
    rcases List.mem_cons.mp mem with rfl | mem
    · exact before
    · exact String.lt_trans before ((List.pairwise_cons.mp ascending).1 e mem)
  | case4 other n rest distinct reached ih =>
    obtain ⟨above, sorted⟩ := List.pairwise_cons.mp ascending
    have behind : other < name :=
      Std.lt_of_le_of_ne (Std.not_lt.mp reached) (Ne.symm distinct)
    refine List.pairwise_cons.mpr ⟨fun e mem => ?_, ih sorted⟩
    rcases fst_of_mem_bump mem with key | ⟨x, inside, key⟩
    · exact key ▸ behind
    · exact key ▸ above x inside

/-! ## Counts -/

theorem Tally.lookup_cons_eq (key name : String) (n : UInt32) (rest : Tally) :
    List.lookup name ((key, n) :: rest) = if name = key then some n else rest.lookup name := by
  by_cases here : name = key
  · simp [here]
  · rw [List.lookup_cons, beq_false_of_ne here, if_neg here]

theorem Tally.countOf_cons (key name : String) (n : UInt32) (rest : Tally) :
    Tally.countOf ((key, n) :: rest) name = if name = key then n else Tally.countOf rest name := by
  unfold Tally.countOf
  rw [lookup_cons_eq]
  split <;> rfl

/-- A name that no entry has has not been counted. -/
theorem Tally.countOf_eq_zero {name : String} {t : Tally} (apart : ∀ e ∈ t, e.1 ≠ name) :
    t.countOf name = 0 := by
  unfold Tally.countOf
  rw [Entries.lookup_eq_none t apart, Option.getD_none]

/-- Counting a name raises its count and leaves all others alone. -/
theorem Tally.lookup_bump {t : Tally} (ascending : t.Ascending) (name other : String) :
    (t.bump name).lookup other =
      if other = name then some (t.countOf name + 1) else t.lookup other := by
  fun_induction Tally.bump name t with
  | case1 => rw [lookup_cons_eq]; rfl
  | case2 n rest =>
    rw [lookup_cons_eq, lookup_cons_eq]
    split
    · simp [countOf]
    · rfl
  | case3 key n rest distinct before =>
    -- All names of the tally are behind, so that the name has not been counted.
    have absent : Tally.countOf ((key, n) :: rest) name = 0 := by
      refine countOf_eq_zero fun e mem same => ?_
      rcases List.mem_cons.mp mem with rfl | mem
      · exact distinct same.symm
      · have behind := String.lt_trans before ((List.pairwise_cons.mp ascending).1 e mem)
        exact String.lt_irrefl name (same ▸ behind)
    rw [absent, lookup_cons_eq]
    rfl
  | case4 key n rest distinct reached ih =>
    rw [lookup_cons_eq, lookup_cons_eq, ih (List.pairwise_cons.mp ascending).2, countOf_cons,
      if_neg distinct]
    by_cases here : other = key
    · rw [if_pos here, if_pos here, if_neg (here ▸ Ne.symm distinct)]
    · rw [if_neg here, if_neg here]

/-- The sum of all counts. -/
def Tally.total (t : Tally) : Nat :=
  (t.map (·.2.toNat)).sum

theorem Tally.total_cons (name : String) (n : UInt32) (rest : Tally) :
    Tally.total ((name, n) :: rest) = n.toNat + Tally.total rest := by
  unfold Tally.total
  rw [List.map_cons, List.sum_cons]

/-- Counting a name adds at most one to the sum. -/
theorem Tally.total_bump_le (name : String) (t : Tally) : (t.bump name).total ≤ t.total + 1 := by
  fun_induction Tally.bump name t with
  | case1 => exact Nat.le_refl 1
  | case2 n rest =>
    have raised : (n + 1).toNat ≤ n.toNat + 1 := by
      rw [UInt32.toNat_add]
      exact Nat.mod_le _ _
    rw [total_cons, total_cons]
    omega
  | case3 key n rest distinct before =>
    rw [total_cons, Nat.add_comm]
    exact Nat.le_refl _
  | case4 key n rest distinct reached ih =>
    rw [total_cons, total_cons]
    omega

theorem Tally.toNat_raised {n : UInt32} (room : n.toNat + 1 < 4294967296) :
    (n + 1).toNat = n.toNat + 1 := by
  rw [UInt32.toNat_add]
  exact Nat.mod_eq_of_lt room

/-- Counting a name adds one to the sum, as long as its count has room for it. -/
theorem Tally.total_bump {name : String} {t : Tally}
    (room : (t.countOf name).toNat + 1 < 4294967296) : (t.bump name).total = t.total + 1 := by
  fun_induction Tally.bump name t with
  | case1 => rfl
  | case2 n rest =>
    rw [countOf_cons, if_pos rfl] at room
    rw [total_cons, total_cons, toNat_raised room]
    omega
  | case3 key n rest distinct before =>
    rw [total_cons, Nat.add_comm]
    rfl
  | case4 key n rest distinct reached ih =>
    rw [countOf_cons, if_neg distinct] at room
    rw [total_cons, total_cons, ih room, Nat.add_assoc]

/-! ## Lists of names -/

/-- Count the names of a list. -/
def Tally.ofNames (names : List String) : Tally :=
  names.foldl (fun t name => t.bump name) []

theorem Tally.ofNames_concat (names : List String) (name : String) :
    Tally.ofNames (names ++ [name]) = (Tally.ofNames names).bump name :=
  List.foldl_append

theorem Tally.ascending_ofNames (names : List String) : (Tally.ofNames names).Ascending := by
  induction names using List.reverseRecOn with
  | nil => exact .nil
  | append_singleton names name ih =>
    rw [ofNames_concat]
    exact ascending_bump ih name

theorem Tally.countOf_of_lookup {t : Tally} {names : List String} {name : String}
    (found : t.lookup name =
      if name ∈ names then some (UInt32.ofNat (names.count name)) else none) :
    t.countOf name = UInt32.ofNat (names.count name) := by
  unfold countOf
  rw [found]
  split
  · rfl
  · rw [List.count_eq_zero_of_not_mem ‹_›]
    rfl

/-- A name that occurs is counted once for each occurrence. -/
theorem Tally.lookup_ofNames (names : List String) (name : String) :
    (Tally.ofNames names).lookup name =
      if name ∈ names then some (UInt32.ofNat (names.count name)) else none := by
  induction names using List.reverseRecOn with
  | nil => rfl
  | append_singleton names last ih =>
    rw [ofNames_concat, lookup_bump (ascending_ofNames names)]
    by_cases here : name = last
    · subst here
      rw [if_pos rfl, if_pos (by simp), countOf_of_lookup ih, List.count_append,
        List.count_singleton_self, UInt32.ofNat_add]
      rfl
    · have same : (names ++ [last]).count name = names.count name := by
        rw [List.count_append, List.count_singleton]
        simp [Ne.symm here]
      rw [if_neg here, ih, same]
      simp [here]

/-- The count of a name is the number of its occurrences, as far as a count can hold it. -/
theorem Tally.countOf_ofNames (names : List String) (name : String) :
    (Tally.ofNames names).countOf name = UInt32.ofNat (names.count name) :=
  countOf_of_lookup (lookup_ofNames names name)

theorem Tally.toNat_countOf_ofNames_le (names : List String) (name : String) :
    ((Tally.ofNames names).countOf name).toNat ≤ names.length := by
  rw [countOf_ofNames, UInt32.toNat_ofNat']
  exact Nat.le_trans (Nat.mod_le _ _) List.count_le_length

theorem Tally.mem_ofNames {names : List String} {name : String} {n : UInt32} :
    (name, n) ∈ Tally.ofNames names ↔
      name ∈ names ∧ n = UInt32.ofNat (names.count name) := by
  rw [Entries.mem_iff_lookup (ascending_ofNames names), lookup_ofNames]
  split <;> simp [*, eq_comm]

theorem Tally.mem_names_ofNames {names : List String} {name : String} :
    name ∈ (Tally.ofNames names).map (·.1) ↔ name ∈ names := by
  rw [List.mem_map]
  constructor
  · rintro ⟨e, mem, rfl⟩
    exact (mem_ofNames.mp mem).1
  · exact fun mem => ⟨(name, _), mem_ofNames.mpr ⟨mem, rfl⟩, rfl⟩

theorem Tally.total_ofNames_le (names : List String) :
    (Tally.ofNames names).total ≤ names.length := by
  induction names using List.reverseRecOn with
  | nil => exact Nat.le_refl 0
  | append_singleton names name ih =>
    rw [ofNames_concat, List.length_append, List.length_singleton]
    exact Nat.le_trans (total_bump_le ..) (Nat.add_le_add_right ih 1)

/-- The counts sum to the number of names, unless there are too many for a count. -/
theorem Tally.total_ofNames {names : List String} (few : names.length < 4294967296) :
    (Tally.ofNames names).total = names.length := by
  induction names using List.reverseRecOn with
  | nil => rfl
  | append_singleton names name ih =>
    rw [List.length_append, List.length_singleton] at few
    have room : ((ofNames names).countOf name).toNat + 1 < 4294967296 :=
      Nat.lt_of_le_of_lt (Nat.add_le_add_right (toNat_countOf_ofNames_le names name) 1) few
    rw [ofNames_concat, total_bump room, ih (Nat.lt_of_succ_lt few), List.length_append,
      List.length_singleton]

theorem Tally.toNat_ofNat_count {names : List String} (few : names.length < 4294967296)
    (name : String) : (UInt32.ofNat (names.count name)).toNat = names.count name :=
  UInt32.toNat_ofNat_of_lt' (Nat.lt_of_le_of_lt List.count_le_length few)

/-- The names of a tally are those with a count, unless there are too many for a count. -/
theorem Tally.mem_names_iff_countOf_ne_zero {names : List String}
    (few : names.length < 4294967296) {name : String} :
    name ∈ (Tally.ofNames names).map (·.1) ↔ (Tally.ofNames names).countOf name ≠ 0 := by
  rw [mem_names_ofNames, countOf_ofNames, ne_eq, ← UInt32.toNat_inj, toNat_ofNat_count few, ← ne_eq]
  exact List.count_pos_iff.symm.trans Nat.pos_iff_ne_zero

theorem Tally.map_toNat_lookup_ofNames {names : List String} (few : names.length < 4294967296)
    (name : String) :
    ((Tally.ofNames names).lookup name).map UInt32.toNat =
      if name ∈ names then some (names.count name) else none := by
  rw [lookup_ofNames]
  split
  · rw [Option.map_some, toNat_ofNat_count few]
  · rfl

/-- A tally in which each name has the sum of its counts in two others, and no name that neither of them
has. -/
structure Tally.IsSum (t a b : Tally) : Prop where
  ascending : t.Ascending
  lookup_eq : ∀ name, (t.lookup name).map UInt32.toNat =
    Option.merge (· + ·) ((a.lookup name).map UInt32.toNat) ((b.lookup name).map UInt32.toNat)

/-- The names of two lists are counted together as they are counted in each. -/
theorem Tally.isSum_ofNames {xs ys : List String} (few : (xs ++ ys).length < 4294967296) :
    Tally.IsSum (.ofNames (xs ++ ys)) (.ofNames xs) (.ofNames ys) := by
  refine ⟨ascending_ofNames _, fun name => ?_⟩
  have ⟨fewer, others⟩ : xs.length < 4294967296 ∧ ys.length < 4294967296 := by
    rw [List.length_append] at few
    omega
  rw [map_toNat_lookup_ofNames few, map_toNat_lookup_ofNames fewer, map_toNat_lookup_ofNames others,
    List.count_append]
  by_cases left : name ∈ xs <;> by_cases right : name ∈ ys <;>
    simp [left, right, List.count_eq_zero_of_not_mem, Option.merge]

end MeshTelemetry
