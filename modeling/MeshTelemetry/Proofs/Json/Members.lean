import MeshTelemetry.Proofs.Json.Items

/-!
# Reading objects

The members of an object are read one after the other, each by the reader that belongs to its key.
`fields?` is what they come to: nothing if a name that may occur only once occurs twice, and otherwise
what each member gives. As with lists, the loop is followed along the text that is left of the object
(`membersLeft`).
-/

namespace MeshTelemetry.Json

variable {α μ : Type} {bound : Nat}

/-- The key and the value of a member. -/
def entryOf (m : Padded Quoted × Padded Document) : String × Document :=
  (m.1.inner.text, m.2.inner)

/-- What is left of an object behind one of its members. -/
def membersLeft (ms : List (Padded Quoted × Padded Document)) (closing : Gap) (text : List UInt8) :
    List UInt8 :=
  ms.flatMap (fun m => byte ',' :: memberBytes m) ++ (closing.bytes ++ byte '\x7d' :: text)

/-- A member with the text behind it, from its key on. -/
def memberThen (m : Padded Quoted × Padded Document) (text : List UInt8) : List UInt8 :=
  m.1.inner.bytes ++ (m.1.after.bytes ++ byte ':' :: (m.2.before.bytes ++ (m.2.inner.bytes ++
    (m.2.after.bytes ++ text))))

theorem bytes_object_nil (closing : Gap) (text : List UInt8) :
    (Document.object [] closing).bytes ++ text =
      byte '\x7b' :: (closing.bytes ++ byte '\x7d' :: text) := by
  simp [Document.bytes_object, joined]

theorem bytes_object_cons (m : Padded Quoted × Padded Document)
    (ms : List (Padded Quoted × Padded Document)) (closing : Gap) (text : List UInt8) :
    (Document.object (m :: ms) closing).bytes ++ text =
      byte '\x7b' :: (m.1.before.bytes ++ memberThen m (membersLeft ms closing text)) := by
  simp [Document.bytes_object, joined, memberBytes, itemBytes, padded, membersLeft, memberThen,
    List.flatMap_map]

theorem membersLeft_nil (closing : Gap) (text : List UInt8) :
    membersLeft [] closing text = closing.bytes ++ byte '\x7d' :: text := rfl

theorem membersLeft_cons (m : Padded Quoted × Padded Document)
    (ms : List (Padded Quoted × Padded Document)) (closing : Gap) (text : List UInt8) :
    membersLeft (m :: ms) closing text =
      byte ',' :: (m.1.before.bytes ++ memberThen m (membersLeft ms closing text)) := by
  simp [memberBytes, itemBytes, padded, membersLeft, memberThen]

theorem closed_membersLeft (ms : List (Padded Quoted × Padded Document)) (closing : Gap)
    (text : List UInt8) : Closed (membersLeft ms closing text) := by
  cases ms with
  | nil => exact Closed.gap (closed_cons text rfl) closing
  | cons m ms =>
    rw [membersLeft_cons]
    exact closed_cons _ rfl

/-! ## Keys -/

theorem quoted_bytes (q : Quoted) (text : List UInt8) :
    q.bytes ++ text = byte '"' :: (q.inner ++ byte '"' :: text) := by
  simp [Quoted.bytes]

theorem read?_nextKey_closing (first : Bool) (g : Gap) (text : List UInt8) :
    read? (nextKey first) (g.bytes ++ byte '\x7d' :: text) = some (none, byte '\x7d' :: text) := by
  unfold nextKey
  rw [read?_bind, read?_peek_byte g text rfl, Option.bind_some]
  rfl

theorem read?_key (q : Quoted) (text : List UInt8) :
    read? (do advance; return some (← stringBody)) (q.bytes ++ text) = some (some q.text, text) := by
  rw [← bind_assoc, bind_pure_comp, read?_map, read?_quoted]
  rfl

theorem read?_nextKey_first (q : Quoted) (g : Gap) (text : List UInt8) :
    read? (nextKey true) (g.bytes ++ (q.bytes ++ text)) = some (some q.text, text) := by
  have key := read?_key q text
  rw [quoted_bytes] at key
  unfold nextKey
  rw [quoted_bytes, read?_bind, read?_peek_byte g _ rfl, Option.bind_some]
  dsimp only
  rw [if_neg (by decide), if_pos rfl, if_pos rfl]
  exact key

theorem read?_nextKey_comma (q : Quoted) (g h : Gap) (text : List UInt8) :
    read? (nextKey false) (g.bytes ++ byte ',' :: (h.bytes ++ (q.bytes ++ text))) =
      some (some q.text, text) := by
  have key := read?_key q text
  rw [quoted_bytes] at key
  unfold nextKey
  rw [quoted_bytes, read?_bind, read?_peek_byte g _ rfl, Option.bind_some]
  dsimp only
  rw [if_neg (by decide), if_neg (by decide), if_pos rfl, read?_bind, read?_advance,
    Option.bind_some, read?_bind, read?_peekValue_byte h _ rfl, Option.bind_some]
  dsimp only
  rw [if_pos rfl]
  exact key

theorem read?_colon (g : Gap) (text : List UInt8) :
    read? colon (g.bytes ++ byte ':' :: text) = some ((), text) := by
  unfold colon
  rw [read?_bind, read?_peek_byte g text rfl, Option.bind_some]
  rfl

theorem read?_closeObject (text : List UInt8) :
    read? closeObject (byte '\x7d' :: text) = some ((), text) := by
  have peeked := read?_peek_cons (b := byte '\x7d') text rfl
  unfold closeObject
  rw [read?_bind, peeked, Option.bind_some]
  rfl

theorem read?_duplicate (name : String) (text : List UInt8) :
    read? (duplicate name : Reader α) text = none := by
  unfold duplicate
  refine read?_bind_none (fun b rest => ?_) text
  split <;> rfl

/-! ## Members -/

/-- What functions make of the members of an object, unless a name occurs twice. -/
def fields? (name? : String → Option String) (f : String → Document → Option μ)
    (seen : List String) : List (String × Document) → Option (List μ)
  | [] => some []
  | (key, d) :: more =>
    match name? key with
    | none => (f key d).bind fun x => (fields? name? f seen more).map (x :: ·)
    | some name =>
      if name ∈ seen then none
      else (f key d).bind fun x => (fields? name? f (name :: seen) more).map (x :: ·)

section

variable {shape : Shape μ} {f : String → Document → Option μ}

/-- Behind its key, a member is read by the reader that belongs to it. -/
theorem read?_member (reads : ∀ key, Reads bound (shape.member key) (f key)) (key : String)
    {m : Padded Quoted × Padded Document} (short : m.2.inner.bytes.length ≤ bound)
    {text : List UInt8} (closed : Closed text) (next : μ → Reader α) :
    read? (do colon; let x ← shape.member key; next x)
        (m.1.after.bytes ++ byte ':' :: (m.2.before.bytes ++ (m.2.inner.bytes ++
          (m.2.after.bytes ++ text)))) =
      (f key m.2.inner).bind fun x => read? (next x) (m.2.after.bytes ++ text) := by
  have read := reads key m.2.inner m.2.before short (closed.gap m.2.after)
  rw [read?_bind, read?_colon, Option.bind_some, read?_bind, read]
  cases f key m.2.inner <;> rfl

/-- One turn of the loop over members: the key is taken, the member is read if the key may occur, and
the loop goes on behind it. -/
theorem read?_members_step (reads : ∀ key, Reads bound (shape.member key) (f key))
    {m : Padded Quoted × Padded Document} (short : m.2.inner.bytes.length ≤ bound)
    {entries : List (String × Document)} {start rest left : List UInt8} (closed : Closed rest)
    {seen : List String} {taken : Array μ} {n : Nat}
    (key : read? (nextKey taken.isEmpty) start =
      some (some m.1.inner.text, m.1.after.bytes ++ byte ':' :: (m.2.before.bytes ++
        (m.2.inner.bytes ++ (m.2.after.bytes ++ rest)))))
    (more : ∀ seen x, read? (members shape seen (taken.push x) n) (m.2.after.bytes ++ rest) =
      (fields? shape.fieldName f seen entries).map fun (xs : List μ) =>
        (taken.push x ++ xs, left)) :
    read? (members shape seen taken (n + 1)) start =
      (fields? shape.fieldName f seen (entryOf m :: entries)).map fun (xs : List μ) =>
        (taken ++ xs, left) := by
  have collect (x : μ) (xs? : Option (List μ)) :
      (xs?.map fun (xs : List μ) => (taken.push x ++ xs, left)) =
        (xs?.map (x :: ·)).map fun (xs : List μ) => (taken ++ xs, left) := by
    cases xs? <;> simp
  unfold members
  rw [read?_bind, key, Option.bind_some, entryOf, fields?]
  dsimp only
  cases shape.fieldName m.1.inner.text with
  | none =>
    dsimp only
    rw [read?_member reads _ short closed, Option.map_bind]
    refine Option.bind_congr fun x _ => ?_
    rw [more, collect]
    rfl
  | some name =>
    dsimp only
    by_cases again : name ∈ seen
    · rw [if_pos again, if_pos again, read?_duplicate]
      rfl
    · rw [if_neg again, if_neg again, read?_member reads _ short closed, Option.map_bind]
      refine Option.bind_congr fun x _ => ?_
      rw [more, collect]
      rfl

/-- The loop over members behind the first one. -/
theorem read?_members_left (reads : ∀ key, Reads bound (shape.member key) (f key))
    (ms : List (Padded Quoted × Padded Document)) (short : ∀ m ∈ ms, m.2.inner.bytes.length ≤ bound)
    (g closing : Gap) (text : List UInt8) (seen : List String) (taken : Array μ)
    (some_ : taken.isEmpty = false) (n : Nat) (enough : ms.length < n) :
    read? (members shape seen taken n) (g.bytes ++ membersLeft ms closing text) =
      (fields? shape.fieldName f seen (ms.map entryOf)).map fun (xs : List μ) =>
        (taken ++ xs, byte '\x7d' :: text) := by
  induction ms generalizing seen taken g n with
  | nil =>
    rcases Nat.exists_eq_succ_of_ne_zero (Nat.ne_of_gt enough) with ⟨n, rfl⟩
    unfold members
    rw [membersLeft_nil, ← List.append_assoc, ← Gap.bytes_append, read?_bind,
      read?_nextKey_closing]
    simp [fields?]
  | cons m ms ih =>
    rcases Nat.exists_eq_succ_of_ne_zero (Nat.ne_of_gt (Nat.zero_lt_of_lt enough)) with ⟨n, rfl⟩
    rw [List.forall_mem_cons] at short
    refine read?_members_step reads short.1 (closed_membersLeft ms closing text) ?_ fun seen x =>
      ih short.2 m.2.after seen (taken.push x) (by simp) n (by simpa using enough)
    rw [membersLeft_cons, memberThen, some_, read?_nextKey_comma]

/-- The loop over all members, behind the opening brace. -/
theorem read?_members (reads : ∀ key, Reads bound (shape.member key) (f key))
    (ms : List (Padded Quoted × Padded Document)) (short : ∀ m ∈ ms, m.2.inner.bytes.length ≤ bound)
    (closing : Gap) (text : List UInt8) (n : Nat) (enough : ms.length < n) :
    ∃ inside, (Document.object ms closing).bytes ++ text = byte '\x7b' :: inside ∧
      read? (members shape [] #[] n) inside =
        (fields? shape.fieldName f [] (ms.map entryOf)).map fun (xs : List μ) =>
          ((#[] : Array μ) ++ xs, byte '\x7d' :: text) := by
  rcases Nat.exists_eq_succ_of_ne_zero (Nat.ne_of_gt (Nat.zero_lt_of_lt enough)) with ⟨n, rfl⟩
  cases ms with
  | nil =>
    refine ⟨_, bytes_object_nil closing text, ?_⟩
    unfold members
    rw [read?_bind, Array.isEmpty_empty, read?_nextKey_closing]
    simp [fields?]
  | cons m ms =>
    rw [List.forall_mem_cons] at short
    refine ⟨_, bytes_object_cons m ms closing text, ?_⟩
    refine read?_members_step reads short.1 (closed_membersLeft ms closing text) ?_ fun seen x =>
      read?_members_left reads ms short.2 m.2.after closing text seen (#[].push x) (by simp) n
        (by simpa using enough)
    rw [memberThen, Array.isEmpty_empty, read?_nextKey_first]

/-- The members of an object from its opening to its closing brace. -/
theorem read?_braced (reads : ∀ key, Reads bound (shape.member key) (f key))
    {ms : List (Padded Quoted × Padded Document)} {closing : Gap}
    (short : (Document.object ms closing).bytes.length ≤ bound) (text : List UInt8) :
    read? (braced shape bound) ((Document.object ms closing).bytes ++ text) =
      (fields? shape.fieldName f [] (ms.map entryOf)).map (·, text) := by
  have counts := count_members ms closing
  have inside : ∀ m ∈ ms, m.2.inner.bytes.length ≤ bound := by
    intro m mem
    have length := length_member closing mem
    omega
  rcases read?_members reads ms inside closing text bound (by omega) with ⟨rest, bytes, read⟩
  have close := read?_closeObject text
  unfold braced
  rw [bytes, read?_bind, read?_advance, Option.bind_some, read?_bind, read]
  cases fields? shape.fieldName f [] (ms.map entryOf) <;> simp [close]

end

end MeshTelemetry.Json
