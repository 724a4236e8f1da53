import MeshTelemetry.Proofs.Json.Members

/-!
# Skipping documents

Every document can be skipped, however deep its brackets nest and whatever its numbers stand for. The
skipping reader takes one step after the other with the open brackets on a stack, so the induction is
on the document and the stack is arbitrary: `Skips d` says that a bounded number of steps leads from
the place in front of `d` to the place behind it with the stack as it was. No byte of a document costs
more than four steps, which is what the reader allows.
-/

namespace MeshTelemetry.Json

variable {bound : Nat}

/-! ## Skipping numbers -/

theorem skipExponent_bytes (e : Exponent) {text : List UInt8}
    (stops : startsWithDigit text = false) :
    skipExponent (e.signBytes ++ (e.digits.bytes ++ text)) = .ok ((), text) := by
  have plus := digitByte_ne isDigit_of_sign.1 e.digits.first
  have minus := digitByte_ne isDigit_of_sign.2 e.digits.first
  have digits : startsWithDigit (e.digits.bytes ++ text) = true := startsWithDigit_digitBytes _ _ _
  have behind : (e.digits.bytes ++ text).dropWhile isDigit = text := dropWhile_digitBytes _ stops
  have head : (e.digits.bytes ++ text).head? = some (digitByte e.digits.first) := rfl
  unfold skipExponent Exponent.signBytes
  cases e.sign with
  | none => simp [head, plus, minus, digits, behind]
  | some down => cases down <;> simp [digits, behind]

theorem skipOptionalExponent_bytes (e : Option Exponent) {text : List UInt8}
    (closed : Closed text) :
    skipOptionalExponent (e.elim [] (·.bytes) ++ text) = .ok ((), text) := by
  unfold skipOptionalExponent
  cases e with
  | none =>
    rw [Option.elim_none, List.nil_append, closed.stops.2.1]
    rfl
  | some e =>
    have marked : (some e.mark.val).any isExponentMark = true := e.mark.property
    rw [Option.elim_some, exponentBytes_eq, List.head?_cons, if_pos marked]
    exact skipExponent_bytes e closed.stops.1

theorem skipAfterInteger_bytes (n : Numeral) {text : List UInt8} (closed : Closed text) :
    skipAfterInteger (n.tailBytes ++ text) = .ok ((), text) := by
  have exponent := skipOptionalExponent_bytes n.exponent closed
  have stops := stops_exponent n.exponent closed
  unfold Numeral.tailBytes Numeral.exponentBytes skipAfterInteger
  rw [List.append_assoc]
  cases n.fraction with
  | some ds =>
    have digits (rest : List UInt8) : startsWithDigit (ds.bytes ++ rest) = true :=
      startsWithDigit_digitBytes _ _ _
    have behind : (ds.bytes ++ (n.exponent.elim [] (·.bytes) ++ text)).dropWhile isDigit =
        n.exponent.elim [] (·.bytes) ++ text := dropWhile_digitBytes _ stops.1
    rw [Option.elim_some, List.cons_append, List.head?_cons, if_pos rfl, List.drop_succ_cons,
      List.drop_zero, digits, if_pos rfl, behind]
    exact exponent
  | none =>
    rw [Option.elim_none, List.nil_append, if_neg stops.2]
    exact exponent

/-- Every numeral can be skipped, whatever it stands for. -/
theorem read?_skipNumber (n : Numeral) {text : List UInt8} (closed : Closed text) :
    read? skipNumber (n.bytes ++ text) = some ((), text) := by
  have tail := skipAfterInteger_bytes n closed
  have stops := stops_tail n closed
  have unsigned : skipUnsigned (digitBytes n.whole.list ++ (n.tailBytes ++ text)) =
      .ok ((), text) := by
    unfold skipUnsigned
    cases n.whole with
    | zero =>
      have zero : digitBytes Whole.zero.list = [byte '0'] := rfl
      rw [zero, List.singleton_append]
      simp only [if_true, stops, Bool.false_eq_true, if_false]
      exact tail
    | digits first more nonzero =>
      have bytes : digitBytes (Whole.digits first more nonzero).list =
        digitByte first :: digitBytes more := rfl
      rw [bytes, List.cons_append]
      simp only [if_neg (digitByte_ne_zero nonzero), isDigit_digitByte, if_true,
        dropWhile_digitBytes more stops]
      exact tail
  rw [read?_eq_some_iff]
  unfold Numeral.bytes skipNumber
  rw [List.append_assoc, List.append_assoc]
  cases n.negative with
  | true => exact unsigned
  | false =>
    rw [if_neg Bool.false_ne_true, List.nil_append, if_neg (n.whole.head_ne_minus _)]
    exact unsigned

/-! ## Steps -/

theorem read?_skipScalar {d : Document} {b : UInt8} (opens : d.Opens b)
    (flat : b ≠ byte '[' ∧ b ≠ byte '\x7b') {text : List UInt8} (closed : Closed text) :
    read? (skipScalar b) (d.bytes ++ text) = some ((), text) := by
  unfold read? skipScalar
  cases d with
  | null =>
    cases opens
    rw [if_pos rfl, Document.bytes]
    exact read?_word [0x75, 0x6c, 0x6c] text
  | boolean value =>
    cases value with
    | true =>
      cases opens
      rw [if_neg (by decide), if_pos (by decide), Document.bytes]
      exact read?_word [0x72, 0x75, 0x65] text
    | false =>
      cases opens
      rw [if_neg (by decide), if_neg (by decide), if_pos (by decide), Document.bytes]
      exact read?_word [0x61, 0x6c, 0x73, 0x65] text
  | number n =>
    have starts : startsNumber b = true := opens
    have apart {c : UInt8} (other : startsNumber c = false) : b ≠ c := ne_of_startsNumber opens other
    rw [if_neg (apart (by decide)), if_neg (apart (by decide)), if_neg (apart (by decide)),
      if_neg (apart (by decide)), startsNumber_eq, if_pos starts, Document.bytes]
    exact read?_skipNumber n closed
  | text q =>
    cases opens
    rw [if_neg (by decide), if_neg (by decide), if_neg (by decide), if_pos rfl, Document.bytes,
      quoted_bytes]
    exact read?_skipString q text
  | list items closing => exact absurd opens flat.1
  | object members closing => exact absurd opens flat.2

/-- A document without brackets. -/
def Document.isFlat : Document → Bool
  | .list _ _ => false
  | .object _ _ => false
  | _ => true

theorem read?_skipStep_flat (outer : List Bracket) {d : Document} (flat : d.isFlat = true) (g : Gap)
    {text : List UInt8} (closed : Closed text) :
    read? (skipStep outer .value) (g.bytes ++ (d.bytes ++ text)) = some ((outer, .after), text) := by
  rcases read?_peek_document d g text with ⟨b, opens, peeked⟩
  have bracket : b ≠ byte '[' := by
    rintro rfl
    obtain ⟨items, closing, rfl⟩ := opens.eq_list
    cases flat
  have brace : b ≠ byte '\x7b' := by
    rintro rfl
    obtain ⟨members, closing, rfl⟩ := opens.eq_object
    cases flat
  unfold skipStep
  rw [read?_bind, peeked, Option.bind_some]
  dsimp only
  rw [if_neg bracket, if_neg brace, read?_bind, read?_skipScalar opens ⟨bracket, brace⟩ closed]
  rfl

/-- The byte that opens a bracket. -/
def Bracket.opener : Bracket → UInt8
  | .list => byte '['
  | .object => byte '\x7b'

section

variable (outer : List Bracket) (bracket : Bracket)

theorem read?_skipStep_open (g : Gap) (text : List UInt8) :
    read? (skipStep outer .value) (g.bytes ++ bracket.opener :: text) =
      some ((bracket :: outer, .opened), text) := by
  unfold skipStep
  cases bracket with
  | list =>
    rw [Bracket.opener, read?_bind, read?_peek_byte g text rfl]
    rfl
  | object =>
    rw [Bracket.opener, read?_bind, read?_peek_byte g text rfl]
    rfl

theorem isBlank_closer : isBlank bracket.closer = false := by cases bracket <;> rfl

theorem read?_skipStep_empty (g : Gap) (text : List UInt8) :
    read? (skipStep (bracket :: outer) .opened) (g.bytes ++ bracket.closer :: text) =
      some ((outer, .after), text) := by
  unfold skipStep
  rw [read?_bind, read?_peek_byte g text (isBlank_closer bracket), Option.bind_some]
  dsimp only
  rw [if_pos rfl]
  rfl

theorem read?_skipStep_first (g : Gap) {b : UInt8} (text : List UInt8) (visible : isBlank b = false)
    (other : b ≠ bracket.closer) :
    read? (skipStep (bracket :: outer) .opened) (g.bytes ++ b :: text) =
      some ((bracket :: outer, .member), b :: text) := by
  unfold skipStep
  rw [read?_bind, read?_peek_byte g text visible, Option.bind_some]
  dsimp only
  rw [if_neg other]
  rfl

theorem read?_skipStep_comma (g : Gap) (text : List UInt8) :
    read? (skipStep (bracket :: outer) .after) (g.bytes ++ byte ',' :: text) =
      some ((bracket :: outer, .member), text) := by
  unfold skipStep
  dsimp only
  rw [read?_bind, read?_peek_byte g text rfl, Option.bind_some]
  dsimp only
  rw [if_pos rfl]
  rfl

theorem read?_skipStep_close (g : Gap) (text : List UInt8) :
    read? (skipStep (bracket :: outer) .after) (g.bytes ++ bracket.closer :: text) =
      some ((outer, .after), text) := by
  have other : bracket.closer ≠ byte ',' := by cases bracket <;> decide
  unfold skipStep
  dsimp only
  rw [read?_bind, read?_peek_byte g text (isBlank_closer bracket), Option.bind_some]
  dsimp only
  rw [if_neg other, if_pos rfl]
  rfl

theorem read?_skipStep_item (text : List UInt8) :
    read? (skipStep (.list :: outer) .member) text = some ((.list :: outer, .value), text) := rfl

theorem read?_skipKey (q : Quoted) (g h : Gap) (text : List UInt8) :
    read? skipKey (g.bytes ++ (q.bytes ++ (h.bytes ++ byte ':' :: text))) = some ((), text) := by
  unfold skipKey
  rw [quoted_bytes, read?_bind, read?_peek_byte g _ rfl, Option.bind_some]
  dsimp only
  rw [if_pos rfl, read?_bind, read?_advance, Option.bind_some, read?_bind, read?_skipString,
    Option.bind_some, read?_colon]

theorem read?_skipStep_key (q : Quoted) (g h : Gap) (text : List UInt8) :
    read? (skipStep (.object :: outer) .member)
        (g.bytes ++ (q.bytes ++ (h.bytes ++ byte ':' :: text))) =
      some ((.object :: outer, .value), text) := by
  unfold skipStep
  dsimp only
  rw [List.head?_cons, if_pos rfl, read?_bind, read?_skipKey]
  rfl

end

/-- One more step. -/
theorem read?_skipSteps_succ {outer inner : List Bracket} {place next : Place}
    {text rest : List UInt8} (going : (outer.isEmpty && decide (place = .after)) = false)
    (step : read? (skipStep outer place) text = some ((inner, next), rest)) (n : Nat) :
    read? (skipSteps outer place (n + 1)) text = read? (skipSteps inner next n) rest := by
  rw [skipSteps, going, if_neg Bool.false_ne_true, read?_bind, step]
  rfl

/-! ## Whole documents -/

/-- Some steps lead past a document, whatever brackets are open around it. -/
def Skips (d : Document) : Prop :=
  ∃ k, k ≤ 4 * d.bytes.length ∧ ∀ (outer : List Bracket) (g : Gap) {text : List UInt8} (n : Nat),
    Closed text → read? (skipSteps outer .value (k + n)) (g.bytes ++ (d.bytes ++ text)) =
      read? (skipSteps outer .after n) text

theorem skips_of_isFlat {d : Document} (flat : d.isFlat = true) : Skips d := by
  have some := d.length_pos
  refine ⟨1, by omega, fun outer g text n closed => ?_⟩
  rw [Nat.add_comm 1 n]
  exact read?_skipSteps_succ (by simp) (read?_skipStep_flat outer flat g closed) n

/-- A value inside a bracket with what belongs to it: for a member of an object the `lead` is its key
with the colon, for an item of a list it is empty. -/
structure Part where
  front : Gap
  lead : List UInt8
  before : Gap
  inner : Document
  after : Gap

/-- A part from its lead on, with the text behind its value. -/
def Part.thenText (p : Part) (text : List UInt8) : List UInt8 :=
  p.lead ++ (p.before.bytes ++ (p.inner.bytes ++ text))

/-- What is left of a bracket behind one of its parts. -/
def partsLeft (bracket : Bracket) (ps : List Part) (closing : Gap) (text : List UInt8) : List UInt8 :=
  ps.flatMap (fun p => byte ',' :: (p.front.bytes ++ p.thenText p.after.bytes)) ++
    (closing.bytes ++ bracket.closer :: text)

/-- A bracket around some parts, with the text behind it. -/
def bracketBytes (bracket : Bracket) (ps : List Part) (closing : Gap) (text : List UInt8) :
    List UInt8 :=
  match ps with
  | [] => bracket.opener :: (closing.bytes ++ bracket.closer :: text)
  | p :: ps =>
    bracket.opener :: (p.front.bytes ++ p.thenText (p.after.bytes ++ partsLeft bracket ps closing text))

/-- A part whose lead is skipped in one step and whose value can be skipped. -/
structure Part.Sound (bracket : Bracket) (p : Part) : Prop where
  leads : ∀ (outer : List Bracket) (g : Gap) (text : List UInt8), ∃ h : Gap,
    read? (skipStep (bracket :: outer) .member) (g.bytes ++ (p.lead ++ text)) =
      some ((bracket :: outer, .value), h.bytes ++ text)
  starts : ∀ text, ∃ b more, p.thenText text = b :: more ∧ isBlank b = false ∧ b ≠ bracket.closer
  skips : Skips p.inner

section

variable {bracket : Bracket}

theorem partsLeft_cons (p : Part) (ps : List Part) (closing : Gap) (text : List UInt8) :
    partsLeft bracket (p :: ps) closing text =
      byte ',' :: (p.front.bytes ++ p.thenText (p.after.bytes ++ partsLeft bracket ps closing text)) := by
  simp [partsLeft, Part.thenText]

theorem closed_partsLeft (bracket : Bracket) (ps : List Part) (closing : Gap) (text : List UInt8) :
    Closed (partsLeft bracket ps closing text) := by
  cases ps with
  | nil =>
    have closer : closes bracket.closer = true := by cases bracket <;> rfl
    exact Closed.gap (closed_cons text closer) closing
  | cons p ps =>
    rw [partsLeft_cons]
    exact closed_cons _ rfl

/-- From the lead of a part to behind its value. -/
theorem Part.Sound.skip {p : Part} (sound : p.Sound bracket) :
    ∃ k, k ≤ 4 * p.inner.bytes.length + 1 ∧
      ∀ (outer : List Bracket) (g : Gap) {text : List UInt8} (n : Nat), Closed text →
        read? (skipSteps (bracket :: outer) .member (k + n)) (g.bytes ++ p.thenText text) =
          read? (skipSteps (bracket :: outer) .after n) text := by
  obtain ⟨k, short, steps⟩ := sound.skips
  refine ⟨k + 1, by omega, fun outer g text n closed => ?_⟩
  rcases sound.leads outer g (p.before.bytes ++ (p.inner.bytes ++ text)) with ⟨h, lead⟩
  have value := steps (bracket :: outer) (h ++ p.before) n closed
  rw [Gap.bytes_append, List.append_assoc] at value
  rw [Nat.add_right_comm, Part.thenText, read?_skipSteps_succ rfl lead, value]

/-- From behind a part to behind the bracket. -/
theorem skip_partsLeft (ps : List Part) (sound : ∀ p ∈ ps, p.Sound bracket) (closing : Gap) :
    ∃ k, k ≤ 4 * (partsLeft bracket ps closing []).length ∧
      ∀ (outer : List Bracket) (g : Gap) (text : List UInt8) (n : Nat),
        read? (skipSteps (bracket :: outer) .after (k + n))
            (g.bytes ++ partsLeft bracket ps closing text) =
          read? (skipSteps outer .after n) text := by
  induction ps with
  | nil =>
    refine ⟨1, ?_, fun outer g text n => ?_⟩
    · simp only [partsLeft, List.flatMap_nil, List.nil_append, List.length_append, List.length_cons]
      omega
    · have close := read?_skipStep_close outer bracket (g ++ closing) text
      rw [Gap.bytes_append, List.append_assoc] at close
      rw [Nat.add_comm 1 n]
      exact read?_skipSteps_succ rfl close n
  | cons p ps ih =>
    rw [List.forall_mem_cons] at sound
    obtain ⟨k, few, part⟩ := sound.1.skip
    rcases ih sound.2 with ⟨l, rest, left⟩
    refine ⟨k + l + 1, ?_, fun outer g text n => ?_⟩
    · rw [partsLeft_cons]
      simp only [Part.thenText, List.length_cons, List.length_append]
      omega
    · have comma := read?_skipStep_comma outer bracket g
        (p.front.bytes ++ p.thenText (p.after.bytes ++ partsLeft bracket ps closing text))
      have closed := (closed_partsLeft bracket ps closing text).gap p.after
      rw [partsLeft_cons, Nat.add_right_comm, read?_skipSteps_succ rfl comma, Nat.add_assoc k l n,
        part outer p.front (l + n) closed, left]

/-- A bracket around parts that can be skipped can be skipped. -/
theorem skips_bracket {d : Document} (bracket : Bracket) (ps : List Part) (closing : Gap)
    (bytes : ∀ text, d.bytes ++ text = bracketBytes bracket ps closing text)
    (sound : ∀ p ∈ ps, p.Sound bracket) : Skips d := by
  have length : d.bytes.length = (bracketBytes bracket ps closing []).length := by
    rw [← bytes, List.append_nil]
  unfold Skips
  simp only [bytes, length]
  cases ps with
  | nil =>
    refine ⟨2, ?_, fun outer g text n closed => ?_⟩
    · simp only [bracketBytes, List.length_cons, List.length_append]
      omega
    · have opened := read?_skipStep_open outer bracket g (closing.bytes ++ bracket.closer :: text)
      have empty := read?_skipStep_empty outer bracket closing text
      rw [Nat.add_comm 2 n, bracketBytes, read?_skipSteps_succ (by simp) opened,
        read?_skipSteps_succ (by simp) empty]
  | cons p ps =>
    rw [List.forall_mem_cons] at sound
    obtain ⟨k, few, part⟩ := sound.1.skip
    rcases skip_partsLeft ps sound.2 closing with ⟨l, rest, left⟩
    refine ⟨k + l + 2, ?_, fun outer g text n closed => ?_⟩
    · simp only [bracketBytes, Part.thenText, List.length_cons, List.length_append]
      omega
    · obtain ⟨b, more, starts, visible, other⟩ :=
        sound.1.starts (p.after.bytes ++ partsLeft bracket ps closing text)
      have opened := read?_skipStep_open outer bracket g
        (p.front.bytes ++ p.thenText (p.after.bytes ++ partsLeft bracket ps closing text))
      have first := read?_skipStep_first outer bracket p.front more visible other
      have behind := (closed_partsLeft bracket ps closing text).gap p.after
      have value := part outer [] (l + n) behind
      rw [Gap.bytes_nil, List.nil_append] at value
      rw [← starts] at first
      rw [show k + l + 2 + n = k + (l + n) + 1 + 1 by omega, bracketBytes,
        read?_skipSteps_succ (by simp) opened, read?_skipSteps_succ (by simp) first, value, left]

end

/-- An item of a list as a part. -/
def Part.ofItem (p : Padded Document) : Part :=
  ⟨p.before, [], [], p.inner, p.after⟩

/-- A member of an object as a part. -/
def Part.ofMember (m : Padded Quoted × Padded Document) : Part :=
  ⟨m.1.before, m.1.inner.bytes ++ (m.1.after.bytes ++ [byte ':']), m.2.before, m.2.inner, m.2.after⟩

theorem Part.sound_ofItem {p : Padded Document} (skips : Skips p.inner) :
    (Part.ofItem p).Sound .list where
  leads outer g text := ⟨g, read?_skipStep_item outer _⟩
  starts text := by
    obtain ⟨b, more, bytes, opens⟩ := p.inner.bytes_eq_cons
    have other : b ≠ byte ']' := opens.ne (by decide) (by decide)
    refine ⟨b, more ++ text, ?_, opens.isBlank, other⟩
    simp [Part.thenText, Part.ofItem, bytes]
  skips := skips

theorem Part.sound_ofMember {m : Padded Quoted × Padded Document} (skips : Skips m.2.inner) :
    (Part.ofMember m).Sound .object where
  leads outer g text := by
    have key := read?_skipStep_key outer m.1.inner g m.1.after text
    exact ⟨[], by simpa [Part.ofMember] using key⟩
  starts text := by
    refine ⟨byte '"', m.1.inner.inner ++ byte '"' :: (m.1.after.bytes ++ byte ':' ::
      (m.2.before.bytes ++ (m.2.inner.bytes ++ text))), ?_, rfl, by decide⟩
    simp [Part.thenText, Part.ofMember, Quoted.bytes]
  skips := skips

/-- Every document can be skipped. -/
theorem skips (d : Document) : Skips d := by
  cases d with
  | null => exact skips_of_isFlat rfl
  | boolean b => exact skips_of_isFlat rfl
  | number n => exact skips_of_isFlat rfl
  | text q => exact skips_of_isFlat rfl
  | list items closing =>
    refine skips_bracket .list (items.map Part.ofItem) closing ?_ ?_
    · intro text
      cases items with
      | nil => exact bytes_list_nil closing text
      | cons p items =>
        simp [bytes_list_cons, bracketBytes, Part.ofItem, Part.thenText, partsLeft, itemsLeft,
          itemBytes, padded, List.flatMap_map, Bracket.opener, Bracket.closer]
    · intro p mem
      rcases List.mem_map.mp mem with ⟨q, inside, rfl⟩
      exact Part.sound_ofItem (skips q.inner)
  | object members closing =>
    refine skips_bracket .object (members.map Part.ofMember) closing ?_ ?_
    · intro text
      cases members with
      | nil => exact bytes_object_nil closing text
      | cons m members =>
        simp [bytes_object_cons, bracketBytes, Part.ofMember, Part.thenText, partsLeft, membersLeft,
          memberThen, memberBytes, itemBytes, padded, List.flatMap_map, Bracket.opener,
          Bracket.closer]
    · intro p mem
      rcases List.mem_map.mp mem with ⟨m, inside, rfl⟩
      exact Part.sound_ofMember (skips m.2.inner)
termination_by sizeOf d
decreasing_by
  · exact Document.sizeOf_item inside
  · exact Document.sizeOf_member inside

/-- The skipping reader passes every document. -/
theorem reads_skipValue : Reads bound (skipValue bound) fun _ => some () := by
  intro d g text short closed
  rcases skips d with ⟨k, few, steps⟩
  obtain ⟨n, enough⟩ : ∃ n, 4 * bound + 4 = k + (n + 1) :=
    ⟨4 * bound + 3 - k, by omega⟩
  unfold skipValue
  rw [enough, steps [] g (n + 1) closed]
  rfl

end MeshTelemetry.Json
