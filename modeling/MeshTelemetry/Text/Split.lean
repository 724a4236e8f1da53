/-!
Cutting a text where a separator stands: in two at the first or the last place, or at all places.
-/

namespace MeshTelemetry.Text

/-- What stands before and behind the first `separator`. -/
def splitFirst? (separator : Char) : List Char → Option (List Char × List Char)
  | [] => none
  | c :: rest =>
    if c = separator then some ([], rest)
    else (splitFirst? separator rest).map fun (before, behind) => (c :: before, behind)

/-- What stands before and behind the last `separator`, which may be several characters. -/
def splitLast? (separator : List Char) : List Char → Option (List Char × List Char)
  | [] => none
  | c :: rest =>
    match splitLast? separator rest with
    | some (before, behind) => some (c :: before, behind)
    | none =>
      if separator.isPrefixOf (c :: rest) then some ([], (c :: rest).drop separator.length)
      else none

/-- The parts of a text between separators. -/
def parts (separator : Char) : List Char → List (List Char)
  | [] => [[]]
  | c :: rest =>
    if c = separator then [] :: parts separator rest
    else
      match parts separator rest with
      | [] => [[c]]
      | part :: more => (c :: part) :: more

/-- A word stands somewhere in a text. -/
def occursIn (word : List Char) : List Char → Bool
  | [] => word.isEmpty
  | c :: rest => word.isPrefixOf (c :: rest) || occursIn word rest

/-- The parts around the first separator are the text, and the part before it is free of it. -/
theorem splitFirst?_eq_some_iff {separator : Char} {text before behind : List Char} :
    splitFirst? separator text = some (before, behind) ↔
      text = before ++ separator :: behind ∧ separator ∉ before := by
  induction text generalizing before with
  | nil => simp [splitFirst?]
  | cons c rest ih =>
    unfold splitFirst?
    split
    · rename_i hc
      subst hc
      constructor
      · intro h
        cases h
        simp
      · rintro ⟨eq, fresh⟩
        cases before with
        | nil =>
          simp only [List.nil_append, List.cons.injEq, true_and] at eq
          rw [eq]
        | cons d more =>
          simp only [List.cons_append, List.cons.injEq] at eq
          simp [eq.1] at fresh
    · rename_i hc
      simp only [Option.map_eq_some_iff, Prod.exists, Prod.mk.injEq]
      constructor
      · rintro ⟨inner, tail, found, rfl, rfl⟩
        obtain ⟨rfl, fresh⟩ := ih.1 found
        simp [fresh, Ne.symm hc]
      · rintro ⟨eq, fresh⟩
        cases before with
        | nil =>
          simp only [List.nil_append, List.cons.injEq] at eq
          exact absurd eq.1 hc
        | cons d more =>
          simp only [List.cons_append, List.cons.injEq] at eq
          refine ⟨more, behind, ih.2 ⟨eq.2, fun inside => fresh (List.mem_cons_of_mem _ inside)⟩,
            ?_, rfl⟩
          rw [eq.1]

end MeshTelemetry.Text
