import MeshTelemetry.Proofs.Json.Reading

/-!
# Reading lists

The items of a list are read one after the other, each by the same reader or each by a reader for its
place. The text that is left of a list is, at every point, some blanks, the items that follow with a
comma in front of each, and the closing bracket (`itemsLeft`); the loops are followed along it.
-/

namespace MeshTelemetry.Json

variable {α : Type} {bound : Nat}

/-- What is left of a list behind one of its items. -/
def itemsLeft (items : List (Padded Document)) (closing : Gap) (text : List UInt8) : List UInt8 :=
  items.flatMap (fun p => byte ',' :: itemBytes p) ++ (closing.bytes ++ byte ']' :: text)

theorem bytes_list_cons (p : Padded Document) (items : List (Padded Document)) (closing : Gap)
    (text : List UInt8) :
    (Document.list (p :: items) closing).bytes ++ text =
      byte '[' :: (p.before.bytes ++ (p.inner.bytes ++
        (p.after.bytes ++ itemsLeft items closing text))) := by
  simp [Document.bytes_list, joined, itemBytes, padded, itemsLeft, List.flatMap_map]

theorem bytes_list_nil (closing : Gap) (text : List UInt8) :
    (Document.list [] closing).bytes ++ text =
      byte '[' :: (closing.bytes ++ byte ']' :: text) := by
  simp [Document.bytes_list, joined]

theorem itemsLeft_cons (p : Padded Document) (items : List (Padded Document)) (closing : Gap)
    (text : List UInt8) :
    itemsLeft (p :: items) closing text =
      byte ',' :: (p.before.bytes ++ (p.inner.bytes ++
        (p.after.bytes ++ itemsLeft items closing text))) := by
  simp [itemBytes, padded, itemsLeft]

theorem itemsLeft_nil (closing : Gap) (text : List UInt8) :
    itemsLeft [] closing text = closing.bytes ++ byte ']' :: text := rfl

theorem closed_itemsLeft (items : List (Padded Document)) (closing : Gap) (text : List UInt8) :
    Closed (itemsLeft items closing text) := by
  cases items with
  | nil => exact Closed.gap (closed_cons text rfl) closing
  | cons p items =>
    rw [itemsLeft_cons]
    exact closed_cons _ rfl

/-! ## Whether an item follows -/

theorem read?_hasItem_closing (first : Bool) (g : Gap) (text : List UInt8) :
    read? (hasItem first) (g.bytes ++ byte ']' :: text) = some (false, byte ']' :: text) := by
  unfold hasItem
  rw [read?_bind, read?_peek_byte g text rfl, Option.bind_some]
  rfl

theorem read?_hasItem_first (d : Document) (g : Gap) (text : List UInt8) :
    read? (hasItem true) (g.bytes ++ (d.bytes ++ text)) = some (true, d.bytes ++ text) := by
  rcases read?_peek_document d g text with ⟨b, opens, peeked⟩
  have other : b ≠ byte ']' := opens.ne (by decide) (by decide)
  unfold hasItem
  rw [read?_bind, peeked, Option.bind_some]
  dsimp only
  rw [if_neg other, if_pos rfl]
  rfl

theorem read?_hasItem_comma (d : Document) (g h : Gap) (text : List UInt8) :
    read? (hasItem false) (g.bytes ++ byte ',' :: (h.bytes ++ (d.bytes ++ text))) =
      some (true, d.bytes ++ text) := by
  rcases read?_peekValue d h text with ⟨b, opens, peeked⟩
  have other : b ≠ byte ']' := opens.ne (by decide) (by decide)
  unfold hasItem
  rw [read?_bind, read?_peek_byte g _ rfl, Option.bind_some]
  dsimp only
  rw [if_neg (by decide), if_neg (by decide), if_pos rfl, read?_bind, read?_advance,
    Option.bind_some, read?_bind, peeked, Option.bind_some]
  dsimp only
  rw [if_neg other]
  rfl

theorem read?_closeList (g : Gap) (text : List UInt8) :
    read? closeList (g.bytes ++ byte ']' :: text) = some ((), text) := by
  unfold closeList
  rw [read?_bind, read?_peek_byte g text rfl, Option.bind_some]
  rfl

theorem read?_closeList_here (text : List UInt8) :
    read? closeList (byte ']' :: text) = some ((), text) :=
  read?_closeList [] text

/-! ## All items -/

/-- A reader reads the given items, wherever they stand. -/
def ReadsItems (r : Reader α) (f : Document → Option α) (items : List (Padded Document)) : Prop :=
  ∀ p ∈ items, ∀ text, Closed text → read? r (p.inner.bytes ++ text) = (f p.inner).map (·, text)

theorem Reads.items {r : Reader α} {f : Document → Option α} (reads : Reads bound r f)
    {ps : List (Padded Document)} {closing : Gap}
    (short : (Document.list ps closing).bytes.length ≤ bound) : ReadsItems r f ps := by
  intro p mem text closed
  have inside := length_item closing mem
  exact reads p.inner [] (by omega) closed

theorem mapM_cons_eq_bind {β : Type} (f : β → Option α) (x : β) (xs : List β) :
    (x :: xs).mapM f = (f x).bind fun y => (xs.mapM f).map (y :: ·) := by
  rw [List.mapM_cons]
  cases f x with
  | none => rfl
  | some y => cases xs.mapM f <;> rfl

/-- One turn of the loop over items: an item is there, it is read, and the loop goes on behind it. -/
theorem read?_items_step {r : Reader α} {f : Document → Option α} {d : Document}
    {start rest left : List UInt8} {taken : Array α} {n : Nat} {xs? : Option (List α)}
    (item : read? (hasItem taken.isEmpty) start = some (true, d.bytes ++ rest))
    (read : read? r (d.bytes ++ rest) = (f d).map (·, rest))
    (more : ∀ x, read? (items r (taken.push x) n) rest =
      xs?.map fun (xs : List α) => (taken.push x ++ xs, left)) :
    read? (items r taken (n + 1)) start =
      ((f d).bind fun x => xs?.map (x :: ·)).map fun (xs : List α) => (taken ++ xs, left) := by
  unfold items
  rw [read?_bind, item, Option.bind_some]
  dsimp only
  rw [if_pos rfl, read?_bind, read]
  cases f d with
  | none => rfl
  | some x =>
    rw [Option.map_some, Option.bind_some, more]
    cases xs? with
    | none => rfl
    | some xs => simp

/-- The loop over items behind the first one. -/
theorem read?_items_left {r : Reader α} {f : Document → Option α} (ps : List (Padded Document))
    (reads : ReadsItems r f ps) (g closing : Gap) (text : List UInt8) (taken : Array α)
    (some_ : taken.isEmpty = false) (n : Nat) (enough : ps.length < n) :
    read? (items r taken n) (g.bytes ++ itemsLeft ps closing text) =
      (ps.mapM fun p => f p.inner).map fun (xs : List α) => (taken ++ xs, byte ']' :: text) := by
  induction ps generalizing taken g n with
  | nil =>
    rcases Nat.exists_eq_succ_of_ne_zero (Nat.ne_of_gt enough) with ⟨n, rfl⟩
    unfold items
    rw [itemsLeft_nil, ← List.append_assoc, ← Gap.bytes_append, read?_bind,
      read?_hasItem_closing]
    simp
  | cons p ps ih =>
    rcases Nat.exists_eq_succ_of_ne_zero (Nat.ne_of_gt (Nat.zero_lt_of_lt enough)) with ⟨n, rfl⟩
    have read := reads p (List.mem_cons_self ..) (p.after.bytes ++ itemsLeft ps closing text)
      ((closed_itemsLeft ps closing text).gap p.after)
    rw [mapM_cons_eq_bind]
    refine read?_items_step ?_ read fun x => ih (fun q mem => reads q (List.mem_cons_of_mem _ mem))
      p.after (taken.push x) (by simp) n (by simpa using enough)
    rw [itemsLeft_cons, some_, read?_hasItem_comma]

/-- The loop over all items of a list. -/
theorem read?_items {r : Reader α} {f : Document → Option α} {ps : List (Padded Document)}
    (reads : ReadsItems r f ps) (closing : Gap) (text : List UInt8) (n : Nat)
    (enough : ps.length < n) :
    read? (do
        advance
        let xs ← items r #[] n
        closeList
        return xs.toList) ((Document.list ps closing).bytes ++ text) =
      (ps.mapM fun p => f p.inner).map (·, text) := by
  rcases Nat.exists_eq_succ_of_ne_zero (Nat.ne_of_gt (Nat.zero_lt_of_lt enough)) with ⟨n, rfl⟩
  have close := read?_closeList_here text
  cases ps with
  | nil =>
    rw [bytes_list_nil, read?_bind, read?_advance, Option.bind_some, read?_bind]
    unfold items
    rw [read?_bind, Array.isEmpty_empty, read?_hasItem_closing]
    simp [close]
  | cons p ps =>
    have read := reads p (List.mem_cons_self ..) (p.after.bytes ++ itemsLeft ps closing text)
      ((closed_itemsLeft ps closing text).gap p.after)
    have item : read? (hasItem (#[] : Array α).isEmpty)
        (p.before.bytes ++ (p.inner.bytes ++ (p.after.bytes ++ itemsLeft ps closing text))) =
          some (true, p.inner.bytes ++ (p.after.bytes ++ itemsLeft ps closing text)) :=
      read?_hasItem_first p.inner p.before _
    have all := read?_items_step item read fun x =>
      read?_items_left ps (fun q mem => reads q (List.mem_cons_of_mem _ mem)) p.after closing text
        (#[].push x) (by simp) n (by simpa using enough)
    rw [bytes_list_cons, read?_bind, read?_advance, Option.bind_some, read?_bind, all,
      mapM_cons_eq_bind]
    cases f p.inner with
    | none => rfl
    | some x => cases ps.mapM fun p => f p.inner <;> simp [close]

/-! ## Items by their place -/

/-- What functions make of documents, each of the one in its place. There may be fewer documents than
functions, but not more. -/
def placed? : List (Document → Option α) → List Document → Option (List α)
  | _, [] => some []
  | [], _ :: _ => none
  | f :: fs, d :: ds => (f d).bind fun x => (placed? fs ds).map (x :: ·)

/-- A list does not end where another item follows. -/
theorem read?_closeList_left (p : Padded Document) (ps : List (Padded Document)) (g closing : Gap)
    (text : List UInt8) : read? closeList (g.bytes ++ itemsLeft (p :: ps) closing text) = none := by
  unfold closeList
  rw [itemsLeft_cons, read?_bind, read?_peek_byte g _ rfl, Option.bind_some]
  dsimp only
  rw [if_neg (by decide), if_pos rfl]
  refine read?_bind_none (fun _ rest => ?_) _
  exact read?_bind_none (fun _ rest => read?_ite_none rfl rfl) rest

section

variable {member : String → Reader α} {f : String → Document → Option α}

/-- What is read by place up to the end of a list, handed to a function. -/
def read?ToEnd {β : Type} (elements : Reader (List α)) (h : List α → β) (text : List UInt8) :
    Option (β × List UInt8) :=
  (read? elements text).bind fun p => (read? closeList p.2).map fun q => (h p.1, q.2)

/-- One turn of the loop over places: an item is there, it is read, and the loop goes on behind it. -/
theorem read?ToEnd_step {r : Reader α} {rs : List (Reader α)} {g : Document → Option α}
    {first : Bool} {d : Document} {start rest left : List UInt8} {xs? : Option (List α)} {β : Type}
    (item : read? (hasItem first) start = some (true, d.bytes ++ rest))
    (read : read? r (d.bytes ++ rest) = (g d).map (·, rest))
    (more : ∀ h : List α → β, read?ToEnd (positions false rs) h rest =
      xs?.map fun xs => (h xs, left)) (h : List α → β) :
    read?ToEnd (positions first (r :: rs)) h start =
      ((g d).bind fun x => xs?.map (x :: ·)).map fun xs => (h xs, left) := by
  unfold read?ToEnd
  rw [positions, read?_bind, item, Option.bind_some]
  dsimp only
  rw [if_pos rfl, read?_bind, read]
  cases g d with
  | none => rfl
  | some x =>
    rw [Option.map_some, Option.bind_some, bind_pure_comp, read?_map, Option.bind_some,
      Option.map_map, Option.bind_map]
    exact more fun xs => h (x :: xs)

theorem read?ToEnd_nil {β : Type} (h : List α → β) {r : Reader α} {rs : List (Reader α)}
    (first : Bool) (g : Gap) (text : List UInt8) :
    read?ToEnd (positions first (r :: rs)) h (g.bytes ++ byte ']' :: text) = some (h [], text) := by
  have close := read?_closeList_here text
  unfold read?ToEnd
  rw [positions, read?_bind, read?_hasItem_closing]
  simp [close]

/-- Items by their place, behind the first one, and the end of the list. -/
theorem read?ToEnd_left (names : List String)
    (reads : ∀ name, Reads bound (member name) (f name)) (ps : List (Padded Document))
    (short : ∀ p ∈ ps, p.inner.bytes.length ≤ bound) (g closing : Gap) (text : List UInt8) {β : Type}
    (h : List α → β) :
    read?ToEnd (positions false (names.map member)) h (g.bytes ++ itemsLeft ps closing text) =
      (placed? (names.map f) (ps.map (·.inner))).map fun xs => (h xs, text) := by
  induction names generalizing ps g h with
  | nil =>
    unfold read?ToEnd
    rw [List.map_nil, positions, read?_pure, Option.bind_some]
    cases ps with
    | nil =>
      rw [itemsLeft_nil, ← List.append_assoc, ← Gap.bytes_append, read?_closeList]
      rfl
    | cons p ps =>
      rw [read?_closeList_left]
      rfl
  | cons name names ih =>
    cases ps with
    | nil =>
      rw [List.map_cons, itemsLeft_nil, ← List.append_assoc, ← Gap.bytes_append, read?ToEnd_nil]
      rfl
    | cons p ps =>
      rw [List.forall_mem_cons] at short
      refine read?ToEnd_step ?_ ?_ (fun h => ih ps short.2 p.after h) h
      · rw [itemsLeft_cons, read?_hasItem_comma]
      · exact reads name p.inner [] short.1 ((closed_itemsLeft ps closing text).gap p.after)

/-- The items of a list, each read by the reader for its place. -/
theorem read?_bracketed (first : String) (names : List String)
    (reads : ∀ name, Reads bound (member name) (f name)) {ps : List (Padded Document)} {closing : Gap}
    (short : (Document.list ps closing).bytes.length ≤ bound) (text : List UInt8) :
    read? (bracketed ((first :: names).map member)) ((Document.list ps closing).bytes ++ text) =
      (placed? ((first :: names).map f) (ps.map (·.inner))).map (·, text) := by
  have inside : ∀ p ∈ ps, p.inner.bytes.length ≤ bound := by
    intro p mem
    have length := length_item closing mem
    omega
  have whole (start : List UInt8) :
      read? (bracketed ((first :: names).map member)) (byte '[' :: start) =
        read?ToEnd (positions true ((first :: names).map member)) id start := by
    unfold bracketed read?ToEnd
    rw [read?_bind, read?_advance, Option.bind_some, read?_bind]
    refine Option.bind_congr fun p _ => ?_
    rw [bind_pure_comp, read?_map]
    rfl
  cases ps with
  | nil =>
    rw [bytes_list_nil, whole, List.map_cons, read?ToEnd_nil]
    rfl
  | cons p ps =>
    rw [List.forall_mem_cons] at inside
    rw [bytes_list_cons, whole]
    refine read?ToEnd_step (read?_hasItem_first p.inner p.before _) ?_
      (fun h => read?ToEnd_left names reads ps inside.2 p.after closing text h) id
    exact reads first p.inner [] inside.1 ((closed_itemsLeft ps closing text).gap p.after)

end

end MeshTelemetry.Json
