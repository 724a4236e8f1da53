import MeshTelemetry.Proofs.Json.Document

/-!
# Reading documents

`Reads bound r f` says that the reader `r` makes of every document, of at most `bound` bytes, what the
function `f` makes of it, and leaves the text behind it; where `f` gives nothing, `r` fails. It holds
of readers for single values first. The loops over items and members carry it from the parts of a
list or an object to the whole (`Reads.list`, `Reads.braced`, `Reads.bracketed`), so that every reader
that is put together from these gets its meaning from the meanings of its parts.
-/

namespace MeshTelemetry.Json

variable {α β μ : Type} {bound : Nat}

/-- A reader makes of documents what a function makes of them. -/
def Reads (bound : Nat) (r : Reader α) (f : Document → Option α) : Prop :=
  ∀ (d : Document) (g : Gap) {text : List UInt8}, d.bytes.length ≤ bound → Closed text →
    read? r (g.bytes ++ (d.bytes ++ text)) = (f d).map (·, text)

theorem Reads.map {r : Reader α} {f : Document → Option α} (reads : Reads bound r f) (h : α → β) :
    Reads bound (do return h (← r)) fun d => (f d).map h := by
  intro d g text short closed
  rw [bind_pure_comp, read?_map, reads d g short closed, Option.map_map, Option.map_map]
  rfl

theorem Reads.congr {r : Reader α} {f f' : Document → Option α} (reads : Reads bound r f)
    (same : ∀ d, f d = f' d) : Reads bound r f' := by
  have eq : f = f' := funext same
  rwa [← eq]

/-! ## Single values -/

/-- The first byte of a document behind some blanks. -/
theorem read?_peek_document (d : Document) (g : Gap) (text : List UInt8) :
    ∃ b, d.Opens b ∧ read? peek (g.bytes ++ (d.bytes ++ text)) = some (some b, d.bytes ++ text) := by
  obtain ⟨b, more, bytes, opens⟩ := d.bytes_eq_cons
  refine ⟨b, opens, ?_⟩
  rw [bytes, List.cons_append, read?_peek_byte g _ opens.isBlank]

theorem read?_peekValue (d : Document) (g : Gap) (text : List UInt8) :
    ∃ b, d.Opens b ∧ read? peekValue (g.bytes ++ (d.bytes ++ text)) = some (b, d.bytes ++ text) := by
  rcases read?_peek_document d g text with ⟨b, opens, peeked⟩
  refine ⟨b, opens, ?_⟩
  unfold peekValue
  rw [read?_bind, peeked]
  rfl

theorem read?_rest_of_word (w : List UInt8) (b : UInt8) (x : α) (text : List UInt8) :
    read? (do advance; word w; return x) (b :: (w ++ text)) = some (x, text) := by
  simp

theorem read?_quoted (q : Quoted) (text : List UInt8) :
    read? (do advance; stringBody) (q.bytes ++ text) = some (q.text, text) := by
  have bytes : q.bytes ++ text = byte '"' :: (q.inner ++ byte '"' :: text) := by
    simp [Quoted.bytes]
  rw [bytes, read?_bind, read?_advance]
  exact read?_stringBody q text

/-- The string that a document is. -/
def Document.text? : Document → Option String
  | .text q => some q.text
  | _ => none

theorem reads_text : Reads bound text Document.text? := by
  intro d g rest short closed
  rcases read?_peekValue d g rest with ⟨b, opens, peeked⟩
  unfold text
  rw [read?_bind, peeked, Option.bind_some]
  dsimp only
  by_cases quote : b = byte '"'
  · subst quote
    obtain ⟨q, rfl⟩ := opens.eq_text
    rw [if_pos rfl, Document.bytes, read?_quoted]
    rfl
  · rw [if_neg quote, read?_refuse]
    cases d with
    | text q => exact absurd opens quote
    | _ => rfl

/-- The double that a document is. -/
def Document.double? : Document → Option Float
  | .number n => n.value?.map (·.toFloat)
  | _ => none

theorem reads_double : Reads bound double Document.double? := by
  intro d g rest short closed
  rcases read?_peekValue d g rest with ⟨b, opens, peeked⟩
  unfold double
  rw [read?_bind, peeked, Option.bind_some]
  dsimp only
  rw [startsNumber_eq]
  by_cases starts : startsNumber b = true
  · rcases opens.eq_number starts with ⟨n, rfl⟩
    rw [if_pos starts, bind_pure_comp, read?_map, Document.bytes, read?_number n closed,
      Document.double?, Option.map_map, Option.map_map]
    rfl
  · rw [if_neg starts, read?_refuse]
    cases d with
    | number n => exact absurd opens starts
    | _ => rfl

/-- The count that a document is. -/
def Document.count? : Document → Option UInt32
  | .number n => n.count?
  | _ => none

theorem reads_count : Reads bound count Document.count? := by
  intro d g rest short closed
  rcases read?_peekValue d g rest with ⟨b, opens, peeked⟩
  unfold count
  rw [read?_bind, peeked, Option.bind_some]
  dsimp only
  rw [startsNumber_eq]
  by_cases starts : startsNumber b = true
  · rcases opens.eq_number starts with ⟨n, rfl⟩
    rw [if_pos starts, read?_bind, Document.bytes, read?_number n closed, Document.count?,
      ← value?_bind_count]
    cases n.value? with
    | none => rfl
    | some x =>
      cases x with
      | float x => rfl
      | integer k =>
        simp only [Option.map_some, Option.bind_some, Number.count?, read?_ite, read?_pure,
          read?_misfit]
        split <;> rfl
  · rw [if_neg starts, read?_refuse]
    cases d with
    | number n => exact absurd opens starts
    | _ => rfl

/-- What a document is that may be null instead. -/
def Document.optional? (f : Document → Option α) : Document → Option (Option α)
  | .null => some none
  | d => (f d).map some

theorem reads_optional {r : Reader α} {f : Document → Option α} (reads : Reads bound r f) :
    Reads bound (optional r) (Document.optional? f) := by
  intro d g rest short closed
  rcases read?_peek_document d g rest with ⟨b, opens, peeked⟩
  unfold optional
  rw [read?_bind, peeked, Option.bind_some]
  dsimp only
  by_cases null : some b = some (byte 'n')
  · cases null
    cases opens.eq_null
    rw [if_pos rfl, Document.bytes]
    exact read?_rest_of_word [0x75, 0x6c, 0x6c] _ _ rest
  · have some_ : Document.optional? f d = (f d).map some := by
      cases d with
      | null => exact absurd (congrArg some opens) null
      | _ => rfl
    have read := reads d [] short closed
    rw [Gap.bytes_nil, List.nil_append] at read
    rw [if_neg null, bind_pure_comp, read?_map, read, some_, Option.map_map, Option.map_map]
    rfl

/-! ## Kept values -/

/-- The value of a document without brackets; lists and objects are given by functions. -/
def Document.valueWith? (list object : Document → Option Value) : Document → Option Value
  | .null => some .null
  | .boolean b => some (.boolean b)
  | .number n => n.value?.map .number
  | .text q => some (.text q.text)
  | .list items closing => list (.list items closing)
  | .object members closing => object (.object members closing)

theorem reads_valueWith {list object : Reader Value} {f h : Document → Option Value}
    (lists : ∀ items closing, ∀ {text}, (Document.list items closing).bytes.length ≤ bound →
      Closed text → read? list ((Document.list items closing).bytes ++ text) =
        (f (.list items closing)).map (·, text))
    (objects : ∀ members closing, ∀ {text}, (Document.object members closing).bytes.length ≤ bound →
      Closed text → read? object ((Document.object members closing).bytes ++ text) =
        (h (.object members closing)).map (·, text)) :
    Reads bound (valueWith list object) (Document.valueWith? f h) := by
  intro d g text short closed
  rcases read?_peekValue d g text with ⟨b, opens, peeked⟩
  unfold valueWith
  rw [read?_bind, peeked, Option.bind_some]
  simp only [startsNumber_eq]
  cases d with
  | null =>
    cases opens
    rw [if_pos rfl, Document.bytes]
    exact read?_rest_of_word [0x75, 0x6c, 0x6c] _ _ text
  | boolean value =>
    cases value with
    | true =>
      cases opens
      rw [if_neg (by decide), if_pos (by decide), Document.bytes]
      exact read?_rest_of_word [0x72, 0x75, 0x65] _ _ text
    | false =>
      cases opens
      rw [if_neg (by decide), if_neg (by decide), if_pos (by decide), Document.bytes]
      exact read?_rest_of_word [0x61, 0x6c, 0x73, 0x65] _ _ text
  | number n =>
    have starts : startsNumber b = true := opens
    have apart {c : UInt8} (other : startsNumber c = false) : b ≠ c := ne_of_startsNumber opens other
    rw [if_neg (apart (by decide)), if_neg (apart (by decide)), if_neg (apart (by decide)),
      if_pos starts, bind_pure_comp, read?_map, Document.bytes, read?_number n closed,
      Document.valueWith?, Option.map_map, Option.map_map]
    rfl
  | text q =>
    cases opens
    rw [if_neg (by decide), if_neg (by decide), if_neg (by decide), if_neg (by decide),
      if_pos rfl, ← bind_assoc, bind_pure_comp, read?_map, Document.bytes, read?_quoted]
    rfl
  | list items closing =>
    cases opens
    rw [if_neg (by decide), if_neg (by decide), if_neg (by decide), if_neg (by decide),
      if_neg (by decide), if_pos rfl]
    exact lists items closing short closed
  | object members closing =>
    cases opens
    rw [if_neg (by decide), if_neg (by decide), if_neg (by decide), if_neg (by decide),
      if_neg (by decide), if_neg (by decide), if_pos rfl]
    exact objects members closing short closed

end MeshTelemetry.Json
