import MeshTelemetry.Json.Reader

/-!
# What a reader gives

`read?` forgets why and where a reader fails and keeps what it reads and the text that it leaves.
The laws below turn a reader that is put together from steps into an equation about `Option`.

Blanks are written as a `Gap`. `Closed` is the condition on the text behind a value: a number would
go on with any other byte.
-/

namespace MeshTelemetry.Json

variable {α β : Type}

/-- What a reader gives and what it leaves, or nothing if it fails. -/
def read? (r : Reader α) (text : List UInt8) : Option (α × List UInt8) :=
  (r text).toOption

/-! ## Steps -/

@[simp]
theorem read?_pure (x : α) (text : List UInt8) : read? (pure x) text = some (x, text) := rfl

@[simp]
theorem read?_bind (r : Reader α) (f : α → Reader β) (text : List UInt8) :
    read? (r >>= f) text = (read? r text).bind fun p => read? (f p.1) p.2 := by
  change ((r text >>= fun p => f p.1 p.2) : Except Fault (β × List UInt8)).toOption = _
  unfold read?
  cases r text with
  | error fault => rfl
  | ok p => rfl

@[simp]
theorem read?_misfit (reason : Mismatch) (text : List UInt8) :
    read? (misfit reason : Reader α) text = none := rfl

theorem read?_ite {p : Prop} [Decidable p] (r s : Reader α) (text : List UInt8) :
    read? (if p then r else s) text = if p then read? r text else read? s text :=
  apply_ite (fun r => read? r text) p r s

@[simp]
theorem read?_advance (b : UInt8) (text : List UInt8) :
    read? advance (b :: text) = some ((), text) := rfl

@[simp]
theorem read?_word (w text : List UInt8) : read? (word w) (w ++ text) = some ((), text) := by
  induction w with
  | nil => rfl
  | cons b w ih =>
    have match_ : word (b :: w) (b :: (w ++ text)) = word w (w ++ text) := if_pos rfl
    simpa only [read?, List.cons_append, match_] using ih

@[simp]
theorem read?_map (f : α → β) (r : Reader α) (text : List UInt8) :
    read? (f <$> r) text = (read? r text).map fun p => (f p.1, p.2) := by
  rw [← bind_pure_comp, read?_bind]
  cases read? r text with
  | none => rfl
  | some p => rfl

theorem read?_ite_none {p : Prop} [Decidable p] {r s : Reader α} {text : List UInt8}
    (first : read? r text = none) (second : read? s text = none) :
    read? (if p then r else s) text = none := by
  rw [read?_ite, first, second, ite_self]

/-- A reader that can only fail after its first step. -/
theorem read?_bind_none {r : Reader α} {f : α → Reader β} (fails : ∀ x rest, read? (f x) rest = none)
    (text : List UInt8) : read? (r >>= f) text = none := by
  rw [read?_bind, Option.bind_eq_none_iff]
  intro p _
  exact fails p.1 p.2

theorem read?_eq_some_iff {r : Reader α} {text rest : List UInt8} {x : α} :
    read? r text = some (x, rest) ↔ r text = .ok (x, rest) := by
  unfold read?
  cases r text with
  | error fault => simp [Except.toOption]
  | ok p => simp [Except.toOption]

/-! ## Blanks -/

/-- Blanks in a row. -/
abbrev Gap := List { b : UInt8 // isBlank b = true }

/-- The bytes of some blanks. -/
def Gap.bytes (g : Gap) : List UInt8 :=
  g.map (·.val)

@[simp]
theorem Gap.bytes_nil : Gap.bytes [] = [] := rfl

theorem Gap.bytes_append (g h : Gap) : Gap.bytes (g ++ h) = g.bytes ++ h.bytes :=
  List.map_append

theorem dropWhile_gap (g : Gap) {text : List UInt8} (stops : text.head?.all (!isBlank ·)) :
    (g.bytes ++ text).dropWhile isBlank = text := by
  induction g with
  | nil =>
    cases text with
    | nil => rfl
    | cons b text =>
      have visible : isBlank b = false := by simpa using stops
      simp [visible]
  | cons blank g ih => simpa [Gap.bytes, blank.property] using ih

theorem read?_peek_gap (g : Gap) {text : List UInt8} (stops : text.head?.all (!isBlank ·)) :
    read? peek (g.bytes ++ text) = some (text.head?, text) := by
  have skipped := dropWhile_gap g stops
  unfold read? peek
  simp only [skipped]
  rfl

/-- Blanks are passed over on the way to a byte that is none. -/
theorem read?_peek_byte (g : Gap) {b : UInt8} (text : List UInt8) (visible : isBlank b = false) :
    read? peek (g.bytes ++ b :: text) = some (some b, b :: text) :=
  read?_peek_gap g (by simp [visible])

theorem read?_peek_cons {b : UInt8} (text : List UInt8) (visible : isBlank b = false) :
    read? peek (b :: text) = some (some b, b :: text) :=
  read?_peek_byte [] text visible

theorem read?_peekValue_byte (g : Gap) {b : UInt8} (text : List UInt8)
    (visible : isBlank b = false) :
    read? peekValue (g.bytes ++ b :: text) = some (b, b :: text) := by
  unfold peekValue
  rw [read?_bind, read?_peek_byte g text visible]
  rfl

/-! ## Behind a value -/

/-- A byte that can stand behind a value. -/
def closes (b : UInt8) : Bool :=
  isBlank b || b = byte ',' || b = byte ']' || b = byte '\x7d'

/-- A text that does not go on with a number. -/
def Closed (text : List UInt8) : Prop :=
  text.head?.all closes = true

theorem closed_nil : Closed [] := rfl

theorem closed_cons {b : UInt8} (text : List UInt8) (h : closes b = true) : Closed (b :: text) := by
  simpa [Closed] using h

theorem Closed.gap {text : List UInt8} (closed : Closed text) (g : Gap) :
    Closed (g.bytes ++ text) := by
  cases g with
  | nil => exact closed
  | cons blank g => exact closed_cons _ (by simp [closes, blank.property])

/-- Nothing that a number goes on with can stand behind a value. -/
theorem Closed.head?_any {text : List UInt8} (closed : Closed text) {p : UInt8 → Bool}
    (apart : ∀ b, closes b = true → p b = false) : text.head?.any p = false := by
  cases text with
  | nil => rfl
  | cons b text => exact apart b (by simpa [Closed] using closed)

/-! ## Refusals -/

/-- A value of a wrong type is never read. -/
@[simp]
theorem read?_refuse (expected : String) (text : List UInt8) :
    read? (refuse expected : Reader α) text = none := by
  unfold refuse
  refine read?_bind_none (fun b rest => ?_) text
  have words (w : List UInt8) (reason : Mismatch) :
      read? (do advance; word w; misfit reason : Reader α) rest = none :=
    read?_bind_none (fun _ => read?_bind_none fun _ _ => rfl) rest
  refine read?_ite_none (words _ _) (read?_ite_none (words _ _) (read?_ite_none (words _ _) ?_))
  refine read?_ite_none ?numbers (read?_ite_none ?texts ?brackets)
  case numbers =>
    refine read?_bind_none (fun n rest => ?_) rest
    cases n <;> rfl
  case texts => exact read?_bind_none (fun _ => read?_bind_none fun _ _ => rfl) rest
  case brackets => exact read?_ite_none rfl (read?_ite_none rfl rfl)

end MeshTelemetry.Json
