import MeshTelemetry.Entries

/-!
# Sorted entries

`Entries.ofList` sorts entries by key and keeps the last of several with one key. Its two laws say all
about it: the keys ascend, and looking up a key finds the last entry under it. The sort is stable, so
that the last entry under a key is still the last one behind it (`filter_sorted`).
-/

namespace MeshTelemetry.Entries

variable {α : Type}

/-- The order by key. -/
def byKey (a b : String × α) : Bool :=
  decide (a.1 ≤ b.1)

theorem byKey_trans (a b c : String × α) (first : byKey a b = true) (second : byKey b c = true) :
    byKey a c = true := by
  simp only [byKey, decide_eq_true_eq] at first second ⊢
  exact String.le_trans first second

theorem byKey_total (a b : String × α) : (byKey a b || byKey b a) = true := by
  simp only [byKey, Bool.or_eq_true, decide_eq_true_eq]
  exact String.le_total a.1 b.1

/-- Sorting leaves the entries under one key in their order. -/
theorem filter_sorted (entries : List (String × α)) (key : String) :
    (entries.mergeSort byKey).filter (·.1 == key) = entries.filter (·.1 == key) := by
  have same : (entries.filter (·.1 == key)).Pairwise fun a b => byKey a b = true := by
    rw [List.pairwise_iff_forall_sublist]
    intro a b pair
    have here : ∀ e ∈ [a, b], e.1 = key := by
      intro e mem
      simpa using (List.mem_filter.mp (pair.subset mem)).2
    have first := here a (by simp)
    have second := here b (by simp)
    simp [byKey, first, second]
  have kept : (entries.filter (·.1 == key)).Sublist (entries.mergeSort byKey) :=
    List.sublist_mergeSort byKey_trans byKey_total same List.filter_sublist
  have inside := kept.filter (·.1 == key)
  rw [List.filter_filter, show (fun e : String × α => (e.1 == key) && (e.1 == key)) = (·.1 == key)
    from funext fun e => Bool.and_self _] at inside
  have counts := ((List.mergeSort_perm entries byKey).filter (·.1 == key)).length_eq
  exact (inside.eq_of_length counts.symm).symm

theorem lookup_filter (entries : List (String × α)) (key : String) :
    (entries.filter (·.1 == key)).lookup key = entries.lookup key := by
  induction entries with
  | nil => rfl
  | cons e entries ih =>
    obtain ⟨name, x⟩ := e
    by_cases here : name = key
    · simp [here]
    · have other : (key == name) = false := by simpa using Ne.symm here
      simp [here, List.lookup_cons, other, ih]

theorem lookup_eq_none (entries : List (String × α)) {key : String}
    (apart : ∀ e ∈ entries, e.1 ≠ key) : entries.lookup key = none := by
  rw [List.lookup_eq_none_iff]
  intro e mem
  simpa using (apart e mem).symm

/-! ## Of ascending entries -/

theorem consFresh_cons (entry next : String × α) (rest : List (String × α)) :
    consFresh entry (next :: rest) =
      if entry.1 = next.1 then next :: rest else entry :: next :: rest := rfl

theorem mem_of_mem_consFresh {entry e : String × α} {entries : List (String × α)}
    (mem : e ∈ consFresh entry entries) : e = entry ∨ e ∈ entries := by
  cases entries with
  | nil => exact .inl (List.mem_singleton.mp mem)
  | cons next rest =>
    rw [consFresh_cons] at mem
    split at mem
    · exact .inr mem
    · exact List.mem_cons.mp mem

theorem mem_of_mem_foldr {entries : List (String × α)} {e : String × α}
    (mem : e ∈ entries.foldr consFresh []) : e ∈ entries := by
  induction entries with
  | nil => exact mem
  | cons first entries ih =>
    rcases mem_of_mem_consFresh mem with rfl | mem
    · exact List.mem_cons_self ..
    · exact List.mem_cons_of_mem _ (ih mem)

theorem lookup_singleton_of_ne {entry : String × α} {key : String} (other : key ≠ entry.1) :
    List.lookup key [entry] = none :=
  lookup_eq_none [entry] (by simpa using other.symm)

/-- In front of strictly ascending entries that it is not above, an entry counts unless its key is
there. -/
theorem consFresh_ascending {entry : String × α} {entries : List (String × α)}
    (strict : entries.Pairwise fun a b => a.1 < b.1) (reached : ∀ e ∈ entries, entry.1 ≤ e.1) :
    (consFresh entry entries).Pairwise (fun a b => a.1 < b.1) ∧
      ∀ key, (consFresh entry entries).lookup key =
        (entries.lookup key).or (List.lookup key [entry]) := by
  cases entries with
  | nil => exact ⟨List.pairwise_singleton _ _, fun key => rfl⟩
  | cons next rest =>
    rw [consFresh_cons]
    split
    · rename_i again
      refine ⟨strict, fun key => ?_⟩
      by_cases here : key = entry.1
      · have found : (next :: rest).lookup key = some next.2 := by
          rw [here, again]
          exact List.lookup_cons_self
        rw [found, Option.some_or]
      · rw [lookup_singleton_of_ne here, Option.or_none]
    · rename_i fresh
      have less : ∀ e ∈ next :: rest, entry.1 < e.1 := by
        intro e mem
        have head : entry.1 < next.1 :=
          Std.lt_of_le_of_ne (reached next (List.mem_cons_self ..)) fresh
        rcases List.mem_cons.mp mem with rfl | mem
        · exact head
        · exact String.lt_trans head ((List.pairwise_cons.mp strict).1 e mem)
      refine ⟨List.pairwise_cons.mpr ⟨less, strict⟩, fun key => ?_⟩
      by_cases here : key = entry.1
      · have absent : (next :: rest).lookup key = none := by
          refine lookup_eq_none _ fun e mem same => ?_
          have above := less e mem
          rw [same, here] at above
          exact String.lt_irrefl _ above
        rw [absent, here, Option.none_or]
        exact List.lookup_cons_self.trans List.lookup_cons_self.symm
      · have other : (key == entry.1) = false := by simpa using here
        rw [lookup_singleton_of_ne here, Option.or_none, List.lookup_cons, other]

/-- Of ascending entries one is kept for each key, the last. -/
theorem foldr_consFresh {entries : List (String × α)}
    (ascending : entries.Pairwise fun a b => byKey a b = true) :
    (entries.foldr consFresh []).Pairwise (fun a b => a.1 < b.1) ∧
      ∀ key, (entries.foldr consFresh []).lookup key = entries.reverse.lookup key := by
  induction entries with
  | nil => exact ⟨List.Pairwise.nil, fun key => rfl⟩
  | cons first entries ih =>
    rcases List.pairwise_cons.mp ascending with ⟨below, ascending⟩
    rcases ih ascending with ⟨strict, found⟩
    have reached : ∀ e ∈ entries.foldr consFresh [], first.1 ≤ e.1 := by
      intro e mem
      simpa [byKey] using below e (mem_of_mem_foldr mem)
    rcases consFresh_ascending strict reached with ⟨strict, front⟩
    refine ⟨strict, fun key => ?_⟩
    rw [List.foldr_cons, front, found, List.reverse_cons, List.lookup_append]

/-- Of strictly ascending entries each is the one that is found under its key. -/
theorem mem_iff_lookup {entries : List (String × α)}
    (strict : entries.Pairwise fun a b => a.1 < b.1) {key : String} {x : α} :
    (key, x) ∈ entries ↔ entries.lookup key = some x := by
  induction entries with
  | nil => simp
  | cons first entries ih =>
    obtain ⟨other, y⟩ := first
    obtain ⟨above, strict⟩ := List.pairwise_cons.mp strict
    rw [List.mem_cons, List.lookup_cons]
    by_cases here : key = other
    · have absent : (other, x) ∉ entries := fun mem => String.lt_irrefl other (above _ mem)
      simp [here, absent, eq_comm]
    · simp [here, beq_false_of_ne here, ih strict]

/-! ## Of any entries -/

/-- The keys ascend. -/
theorem pairwise_ofList (entries : List (String × α)) :
    (ofList entries).Pairwise fun a b => a.1 < b.1 :=
  (foldr_consFresh (List.pairwise_mergeSort byKey_trans byKey_total entries)).1

theorem mem_of_mem_ofList {entries : List (String × α)} {e : String × α}
    (mem : e ∈ ofList entries) : e ∈ entries :=
  (List.mergeSort_perm entries byKey).mem_iff.mp (mem_of_mem_foldr mem)

/-- Under every key there is the last entry with this key. -/
theorem lookup_ofList (entries : List (String × α)) (key : String) :
    (ofList entries).lookup key = entries.reverse.lookup key := by
  have sorted := List.pairwise_mergeSort byKey_trans byKey_total entries
  calc (ofList entries).lookup key
      = (entries.mergeSort byKey).reverse.lookup key := (foldr_consFresh sorted).2 key
    _ = ((entries.mergeSort byKey).filter (·.1 == key)).reverse.lookup key := by
      rw [← lookup_filter, List.filter_reverse]
    _ = (entries.filter (·.1 == key)).reverse.lookup key := by rw [filter_sorted]
    _ = entries.reverse.lookup key := by rw [← List.filter_reverse, lookup_filter]

/-- Strictly ascending entries stay as they are. -/
theorem ofList_eq_self {entries : List (String × α)}
    (strict : entries.Pairwise fun a b => a.1 < b.1) : ofList entries = entries := by
  have sorted : entries.mergeSort byKey = entries := by
    refine List.mergeSort_of_pairwise (strict.imp fun less => ?_)
    simp only [byKey, decide_eq_true_eq]
    exact Std.le_of_lt less
  have kept : entries.foldr consFresh [] = entries := by
    clear sorted
    induction entries with
    | nil => rfl
    | cons first entries ih =>
      rw [List.pairwise_cons] at strict
      rw [List.foldr_cons, ih strict.2]
      cases entries with
      | nil => rfl
      | cons next rest =>
        rw [consFresh_cons, if_neg]
        exact Std.ne_of_lt (strict.1 next (List.mem_cons_self ..))
  change (entries.mergeSort byKey).foldr consFresh [] = entries
  rw [sorted, kept]

end MeshTelemetry.Entries
