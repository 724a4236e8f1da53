import Mathlib
import MeshTelemetry.Proofs.Text
import MeshTelemetry.Toml.Reader

/-!
# Reading words

`Scans scan text rest P` says that a scanner reads a text up to a rest, wherever the text stands in the
document, and that what it gives has a property; `Refuses` that it takes nothing. The laws follow the steps of
a scanner. With them each word is read back from one way to write it: a bare key, a string in double quotes,
a decimal number, and a truth value, each on its line (`scans_value`).
-/

namespace MeshTelemetry.Toml

open Text (Ends)

/-! ## Scanning a text -/

section

variable {α β : Type}

/-- The scanner reads the text up to the rest, and what it gives has the property. -/
def Scans (scan : Scan α) (text rest : List Char) (P : α → Prop) : Prop :=
  ∀ offset, ∃ x stop, scan ⟨text, offset⟩ = some (x, ⟨rest, stop⟩) ∧ P x

/-- The scanner reads nothing of the text. -/
def Refuses (scan : Scan α) (text : List Char) : Prop :=
  ∀ offset, scan ⟨text, offset⟩ = none

variable {scan : Scan α} {text rest middle : List Char} {P : α → Prop}

theorem scans_pure {x : α} (holds : P x) : Scans (pure x) text text P :=
  fun offset => ⟨x, offset, rfl, holds⟩

theorem refuses_refuse : Refuses (refuse : Scan α) text :=
  fun _ => rfl

theorem Scans.bind {next : α → Scan β} {Q : β → Prop} (first : Scans scan text middle P)
    (second : ∀ x, P x → Scans (next x) middle rest Q) : Scans (scan >>= next) text rest Q := by
  intro offset
  obtain ⟨x, place, taken, holds⟩ := first offset
  obtain ⟨y, stop, left, result⟩ := second x holds place
  exact ⟨y, stop, Option.bind_eq_some_iff.mpr ⟨_, taken, left⟩, result⟩

/-- A step whose outcome is known. -/
theorem Scans.andThen {x : α} {next : α → Scan β} {Q : β → Prop}
    (first : Scans scan text middle (· = x)) (second : Scans (next x) middle rest Q) :
    Scans (scan >>= next) text rest Q :=
  first.bind fun _ same => same ▸ second

theorem Scans.map {f : α → β} {Q : β → Prop} (first : Scans scan text rest P)
    (holds : ∀ x, P x → Q (f x)) : Scans (f <$> scan) text rest Q := by
  intro offset
  obtain ⟨x, stop, taken, has⟩ := first offset
  exact ⟨f x, stop, Option.bind_eq_some_iff.mpr ⟨_, taken, rfl⟩, holds x has⟩

theorem Scans.mono {Q : α → Prop} (scans : Scans scan text rest P) (le : ∀ x, P x → Q x) :
    Scans scan text rest Q := by
  intro offset
  obtain ⟨x, stop, taken, has⟩ := scans offset
  exact ⟨x, stop, taken, le x has⟩

theorem Scans.located (scans : Scans scan text rest P) :
    Scans (located scan) text rest fun x => P x.1 := by
  intro offset
  obtain ⟨x, stop, taken, has⟩ := scans offset
  exact ⟨_, stop, Option.bind_eq_some_iff.mpr ⟨_, taken, rfl⟩, has⟩

theorem Refuses.bind (refuses : Refuses scan text) (next : α → Scan β) :
    Refuses (scan >>= next) text := by
  intro offset
  change (scan ⟨text, offset⟩).bind _ = none
  rw [refuses offset]
  rfl

theorem Scans.thenRefuses {x : α} {next : α → Scan β} (first : Scans scan text middle (· = x))
    (second : Refuses (next x) middle) : Refuses (scan >>= next) text := by
  intro offset
  obtain ⟨_, place, taken, rfl⟩ := first offset
  change (scan ⟨text, offset⟩).bind _ = none
  rw [taken]
  exact second place

theorem Refuses.map (refuses : Refuses scan text) (f : α → β) : Refuses (f <$> scan) text :=
  refuses.bind fun x => pure (f x)

theorem Refuses.scans_orElse {other : Scan α} (refuses : Refuses scan text)
    (scans : Scans other text rest P) : Scans (scan <|> other) text rest P := by
  intro offset
  obtain ⟨x, stop, taken, has⟩ := scans offset
  refine ⟨x, stop, ?_, has⟩
  change (scan ⟨text, offset⟩ <|> other ⟨text, offset⟩) = _
  rw [refuses offset]
  exact taken

theorem Refuses.orElse {other : Scan α} (refuses : Refuses scan text)
    (second : Refuses other text) : Refuses (scan <|> other) text := by
  intro offset
  change (scan ⟨text, offset⟩ <|> other ⟨text, offset⟩) = none
  rw [refuses offset]
  exact second offset

end

section

variable {expected text rest : List Char} {p : Char → Bool}

theorem scans_look (text : List Char) : Scans look text text (· = text.head?) :=
  fun offset => ⟨_, offset, rfl, rfl⟩

theorem scans_skip (taken rest : List Char) :
    Scans (skip taken.length) (taken ++ rest) rest fun _ => True := by
  intro offset
  refine ⟨(), offset + taken.length, ?_, trivial⟩
  unfold skip
  rw [List.drop_left]

theorem scans_startsWith (expected text : List Char) :
    Scans (startsWith expected) text text (· = expected.isPrefixOf text) :=
  fun offset => ⟨_, offset, rfl, rfl⟩

theorem isPrefixOf_append (expected rest : List Char) :
    expected.isPrefixOf (expected ++ rest) = true :=
  List.isPrefixOf_iff_prefix.mpr (List.prefix_append _ _)

/-- What is accepted. -/
theorem scans_accept (expected rest : List Char) :
    Scans (accept expected) (expected ++ rest) rest (· = true) := by
  refine (scans_startsWith _ _).andThen ?_
  rw [isPrefixOf_append]
  exact (scans_skip expected rest).bind fun _ _ => scans_pure rfl

/-- What is not accepted stays. -/
theorem scans_accept_other (other : expected.isPrefixOf text = false) :
    Scans (accept expected) text text (· = false) := by
  refine (scans_startsWith _ _).andThen ?_
  rw [other]
  exact scans_pure rfl

theorem scans_exactly (expected rest : List Char) :
    Scans (exactly expected) (expected ++ rest) rest fun _ => True := by
  refine (scans_startsWith _ _).andThen ?_
  rw [isPrefixOf_append]
  exact scans_skip expected rest

theorem refuses_exactly (other : expected.isPrefixOf text = false) :
    Refuses (exactly expected) text := by
  refine (scans_startsWith _ _).thenRefuses ?_
  rw [other]
  exact refuses_refuse

theorem scans_takeWhile {run : List Char} (all : ∀ c ∈ run, p c = true) (ends : Ends p rest) :
    Scans (takeWhile p) (run ++ rest) rest (· = run) := by
  intro offset
  refine ⟨run, offset + run.length, ?_, rfl⟩
  unfold takeWhile
  rw [Text.takeWhile_append_ends all ends, Text.dropWhile_append_ends all ends]

theorem scans_takeSome {run : List Char} (present : run ≠ []) (all : ∀ c ∈ run, p c = true)
    (ends : Ends p rest) : Scans (takeSome p) (run ++ rest) rest (· = run) := by
  refine (scans_takeWhile all ends).andThen ?_
  rw [if_neg (by simpa using present)]
  exact scans_pure rfl

theorem scans_oneOf {c : Char} (inside : p c = true) (rest : List Char) :
    Scans (oneOf p) (c :: rest) rest (· = c) := by
  refine (scans_look _).andThen ?_
  dsimp only [List.head?_cons]
  rw [if_pos inside]
  exact (scans_skip [c] rest).bind fun _ _ => scans_pure rfl

/-- A character outside a class is none of it. -/
theorem ne_of_class {c d : Char} (inside : p c = true) (outside : p d = false) : d ≠ c := by
  rintro rfl
  rw [inside] at outside
  cases outside

/-- A text whose first character is another one does not begin as expected. -/
theorem isPrefixOf_cons_of_ne {c d : Char} (other : c ≠ d) (more text : List Char) :
    (c :: more).isPrefixOf (d :: text) = false := by
  simp [List.isPrefixOf, other]

end

/-! ## Blanks, line ends and keys -/

section

variable {rest : List Char}

/-- Without blanks at the front none are skipped. -/
theorem scans_blanks (ends : Ends isBlank rest) : Scans blanks rest rest fun _ => True := by
  have none : Scans (takeWhile isBlank) ([] ++ rest) rest (· = []) := scans_takeWhile (by simp) ends
  exact none.bind fun _ _ => scans_pure trivial

theorem scans_lineBreak (rest : List Char) : Scans lineBreak ('\n' :: rest) rest (· = true) := by
  refine (scans_accept ['\n'] rest).andThen ?_
  exact scans_pure rfl

theorem scans_lineBreak_other {c : Char} (noFeed : '\n' ≠ c) (noReturn : '\r' ≠ c) (more : List Char) :
    Scans lineBreak (c :: more) (c :: more) (· = false) := by
  refine (scans_accept_other (isPrefixOf_cons_of_ne noFeed _ _)).andThen ?_
  exact scans_accept_other (isPrefixOf_cons_of_ne noReturn _ _)

/-- The end of a line. -/
theorem scans_statementEnd (rest : List Char) :
    Scans statementEnd ('\n' :: rest) rest fun _ => True := by
  have noComment : Scans comment ('\n' :: rest) ('\n' :: rest) fun _ => True := by
    refine (scans_accept_other (isPrefixOf_cons_of_ne (by decide) _ _)).andThen ?_
    exact scans_pure trivial
  refine (scans_blanks (.cons (by decide) rest)).bind fun _ _ => noComment.bind fun _ _ => ?_
  refine (scans_look _).andThen ?_
  refine (scans_lineBreak rest).andThen ?_
  exact scans_pure trivial

/-- A name that needs no quotes. -/
structure IsBareName (name : String) : Prop where
  present : name.toList ≠ []
  bare : ∀ c ∈ name.toList, isBare c = true

/-- A character that no bare key begins with. -/
theorem isPrefixOf_bare {name : String} (bare : IsBareName name) {c : Char} (other : isBare c = false)
    (more rest : List Char) : (c :: more).isPrefixOf (name.toList ++ rest) = false := by
  obtain ⟨d, name, front⟩ := List.exists_cons_of_ne_nil bare.present
  have first := bare.bare d (by simp [front])
  rw [front]
  exact isPrefixOf_cons_of_ne (ne_of_class first other) _ _

theorem isBlank_of_isBare {c : Char} (bare : isBare c = true) : isBlank c = false := by
  have noSpace : c ≠ ' ' := (ne_of_class bare (by decide)).symm
  have noTab : c ≠ '\t' := (ne_of_class bare (by decide)).symm
  simp [isBlank, noSpace, noTab]

theorem ends_blank_bare {name : String} (bare : IsBareName name) (rest : List Char) :
    Ends isBlank (name.toList ++ rest) := by
  obtain ⟨d, name, front⟩ := List.exists_cons_of_ne_nil bare.present
  rw [front]
  exact .cons (isBlank_of_isBare (bare.bare d (by simp [front]))) _

theorem scans_simpleKey {name : String} (bare : IsBareName name) (ends : Ends isBare rest)
    (bound : Nat) :
    Scans (simpleKey bound) (name.toList ++ rest) rest fun k => k.name = name := by
  have plain : Scans (do
      if ← accept ['"'] then basicBody [] bound
      else if ← accept ['\''] then literalBody
      else return String.ofList (← takeSome isBare))
      (name.toList ++ rest) rest (· = name) := by
    refine (scans_accept_other (isPrefixOf_bare bare (by decide) _ _)).andThen ?_
    refine (scans_accept_other (isPrefixOf_bare bare (by decide) _ _)).andThen ?_
    refine (scans_takeSome bare.present bare.bare ends).andThen ?_
    exact scans_pure String.ofList_toList
  refine plain.located.bind ?_
  rintro ⟨_, span⟩ rfl
  exact scans_pure rfl

/-- A key of two bare parts. -/
theorem scans_key {table name : String} (outer : IsBareName table) (inner : IsBareName name)
    (bound parts : Nat) (rest : List Char) :
    Scans (key bound (parts + 2)) (table.toList ++ '.' :: (name.toList ++ '=' :: rest))
      ('=' :: rest) fun path => ∃ k l : Key, path = [k, l] ∧ k.name = table ∧ l.name = name := by
  have last : Scans (key bound (parts + 1)) (name.toList ++ '=' :: rest) ('=' :: rest)
      fun path => ∃ l : Key, path = [l] ∧ l.name = name := by
    refine (scans_blanks (ends_blank_bare inner _)).bind fun _ _ => ?_
    refine (scans_simpleKey inner (.cons (by decide) _) bound).bind fun l named => ?_
    refine (scans_blanks (.cons (by decide) _)).bind fun _ _ => ?_
    refine (scans_accept_other (isPrefixOf_cons_of_ne (by decide) _ _)).andThen ?_
    exact scans_pure ⟨l, rfl, named⟩
  refine (scans_blanks (ends_blank_bare outer _)).bind fun _ _ => ?_
  refine (scans_simpleKey outer (.cons (by decide) _) bound).bind fun k named => ?_
  refine (scans_blanks (.cons (by decide) _)).bind fun _ _ => ?_
  refine (scans_accept ['.'] _).andThen ?_
  refine last.bind ?_
  rintro _ ⟨l, rfl, same⟩
  exact scans_pure ⟨k, l, rfl, named, same⟩

end

/-! ## Strings -/

/-- Hexadecimal digits of a given number, the last ones of a value. -/
def fixedHex : Nat → Nat → List Char
  | 0, _ => []
  | count + 1, n => fixedHex count (n / 16) ++ [Text.Hex.digit (n % 16)]

theorem length_fixedHex (count n : Nat) : (fixedHex count n).length = count := by
  induction count generalizing n with
  | zero => rfl
  | succ count ih => rw [fixedHex, List.length_append, ih]; rfl

theorem values_fixedHex (count n : Nat) :
    ((fixedHex count n).filterMap Text.Hex.value?).length = count ∧
      ((fixedHex count n).filterMap Text.Hex.value?).foldl (fun n v => 16 * n + v) 0 =
        n % 16 ^ count := by
  induction count generalizing n with
  | zero => exact ⟨rfl, (Nat.mod_one n).symm⟩
  | succ count ih =>
    obtain ⟨length, value⟩ := ih (n / 16)
    have last : [Text.Hex.digit (n % 16)].filterMap Text.Hex.value? = [n % 16] := by
      rw [List.filterMap_cons, Text.Hex.value?_digit _ (Nat.mod_lt n (by decide))]
      rfl
    rw [fixedHex, List.filterMap_append, last]
    refine ⟨by rw [List.length_append, length]; rfl, ?_⟩
    rw [List.foldl_append, value, List.foldl_cons, List.foldl_nil, Nat.pow_succ',
      Nat.mod_mul]
    omega

/-- A character inside double quotes: as it is, or as its code point. -/
def spelled (c : Char) : List Char :=
  if isBasic c then [c] else '\\' :: 'U' :: fixedHex 8 c.toNat

theorem scans_codePoint (c : Char) (rest : List Char) :
    Scans (codePoint 8) (fixedHex 8 c.toNat ++ rest) rest (· = c) := by
  intro offset
  obtain ⟨length, value⟩ := values_fixedHex 8 c.toNat
  have small : c.toNat < 0x110000 := by
    rcases c.valid with low | ⟨-, high⟩
    · exact Nat.lt_trans low (by decide)
    · exact high
  have digits : (fixedHex 8 c.toNat ++ rest).take 8 = fixedHex 8 c.toNat := by
    rw [List.take_append_of_le_length (Nat.le_of_eq (length_fixedHex 8 _).symm),
      List.take_of_length_le (Nat.le_of_eq (length_fixedHex 8 _))]
  have left : (fixedHex 8 c.toNat ++ rest).drop 8 = rest :=
    List.drop_left' (length_fixedHex 8 _)
  rw [Nat.mod_eq_of_lt (by omega)] at value
  refine ⟨c, offset + 8, ?_, rfl⟩
  unfold codePoint
  dsimp only
  rw [digits, left, value, if_pos ⟨length, c.valid⟩, Char.ofNat_toNat]

/-- The rest of a string in double quotes, of which some characters as they are come first. -/
theorem scans_basicBody (cs plain : List Char) (basic : ∀ c ∈ plain, isBasic c = true)
    (taken : List Char) {bound : Nat} (room : cs.length < bound) (rest : List Char) :
    Scans (basicBody taken bound) (plain ++ (cs.flatMap spelled ++ '"' :: rest)) rest
      (· = String.ofList (taken.reverse ++ plain ++ cs)) := by
  induction cs generalizing plain taken bound with
  | nil =>
    obtain ⟨bound, rfl⟩ := Nat.exists_eq_add_one.mpr room
    refine (scans_takeWhile basic (.cons (by decide) rest)).andThen ?_
    refine (scans_accept ['"'] rest).andThen ?_
    exact scans_pure (by simp)
  | cons c cs ih =>
    rw [List.flatMap_cons, List.append_assoc]
    by_cases here : isBasic c = true
    · -- One more character as it is.
      have longer : ∀ d ∈ plain ++ [c], isBasic d = true := by
        intro d inside
        rcases List.mem_append.mp inside with before | new
        · exact basic d before
        · rw [List.mem_singleton.mp new]
          exact here
      have scans := ih _ longer taken (Nat.lt_of_succ_lt room)
      rw [spelled, if_pos here, ← List.append_assoc]
      refine scans.mono fun x same => same.trans ?_
      simp
    · obtain ⟨bound, rfl⟩ := Nat.exists_eq_add_one.mpr (Nat.zero_lt_of_lt room)
      have scans := ih [] (by simp) (c :: (plain.reverse ++ taken))
        (Nat.lt_of_succ_lt_succ room)
      rw [spelled, if_neg here]
      refine (scans_takeWhile basic (.cons (by decide) _)).andThen ?_
      refine (scans_accept_other (isPrefixOf_cons_of_ne (by decide) _ _)).andThen ?_
      refine (scans_accept ['\\'] _).andThen ?_
      have escape : Scans escaped ('U' :: (fixedHex 8 c.toNat ++ (cs.flatMap spelled ++ '"' :: rest)))
          (cs.flatMap spelled ++ '"' :: rest) (· = c) := by
        refine (scans_look _).andThen ?_
        exact (scans_skip ['U'] _).bind fun _ _ => scans_codePoint c _
      refine escape.andThen ?_
      refine scans.mono fun x same => same.trans ?_
      simp

/-- A string in double quotes. -/
theorem scans_anyString (s : String) {bound : Nat} (room : s.toList.length < bound)
    (rest : List Char) :
    Scans (anyString bound) ('"' :: (s.toList.flatMap spelled ++ '"' :: '\n' :: rest))
      ('\n' :: rest) (· = s) := by
  -- Two quotes at the front are those of an empty string, and the third character is no quote.
  have notLong : ['"', '"', '"'].isPrefixOf
      ('"' :: (s.toList.flatMap spelled ++ '"' :: '\n' :: rest)) = false := by
    cases s.toList with
    | nil => rfl
    | cons c cs =>
      have first : ∃ d more, spelled c = d :: more ∧ d ≠ '"' := by
        unfold spelled
        split
        · rename_i basic
          refine ⟨c, [], rfl, ?_⟩
          rintro rfl
          exact absurd basic (by decide)
        · exact ⟨'\\', _, rfl, by decide⟩
      obtain ⟨d, more, front, other⟩ := first
      simp [front, List.isPrefixOf, other.symm]
  refine (scans_accept_other notLong).andThen ?_
  refine (scans_accept ['"'] _).andThen ?_
  have body := scans_basicBody s.toList [] (by simp) [] room ('\n' :: rest)
  refine body.mono fun x same => same.trans ?_
  exact String.ofList_toList

/-! ## Numbers -/

section

variable {digits : List Char} (all : ∀ c ∈ digits, c.isDigit = true) (rest : List Char)

include all

/-- Behind some digits of a row there is another one or the end of the line. -/
theorem head_drop_digits {count : Nat} (inside : count ≤ digits.length) :
    ∃ c more, (digits ++ '\n' :: rest).drop count = c :: more ∧ (c.isDigit = true ∨ c = '\n') := by
  rw [List.drop_append_of_le_length inside]
  cases left : digits.drop count with
  | nil => exact ⟨'\n', rest, rfl, .inr rfl⟩
  | cons c more =>
    have among : c ∈ digits.drop count := left ▸ List.mem_cons_self ..
    exact ⟨c, _, rfl, .inl (all c (List.mem_of_mem_drop among))⟩

/-- In a row of digits there is no fixed number of digits with a mark behind it. -/
theorem refuses_fixedNumber {α : Type} (count least most : Nat) {mark : Char}
    (marked : mark.isDigit = false) (inLine : mark ≠ '\n') {next : Nat → Scan α}
    (follows : ∀ n text, [mark].isPrefixOf text = false → Refuses (next n) text) :
    Refuses (fixedNumber count least most >>= next) (digits ++ '\n' :: rest) := by
  intro offset
  change (fixedNumber count least most ⟨digits ++ '\n' :: rest, offset⟩).bind _ = none
  unfold fixedNumber
  dsimp only
  split
  · rename_i fits
    have inside : count ≤ digits.length := by
      by_contra short
      -- The end of the line is no digit.
      have line : '\n' ∈ (digits ++ '\n' :: rest).take count := by
        rw [List.take_append]
        obtain ⟨more, extra⟩ := Nat.exists_eq_add_of_lt (Nat.lt_of_not_le short)
        simp [show count - digits.length = more + 1 by omega]
      exact absurd (List.all_eq_true.mp fits.2.1 '\n' line) (by decide)
    obtain ⟨c, more, front, kind⟩ := head_drop_digits all rest inside
    refine follows _ _ ?_ _
    rw [front]
    refine isPrefixOf_cons_of_ne ?_ _ _
    rintro rfl
    rcases kind with digit | line
    · rw [digit] at marked
      cases marked
    · exact inLine line
  · rfl

theorem refuses_moment : Refuses moment (digits ++ '\n' :: rest) := by
  have noDate : Refuses date (digits ++ '\n' :: rest) :=
    refuses_fixedNumber all rest 4 0 9999 (by decide) (by decide) fun _ _ other =>
      (refuses_exactly other).bind _
  have noTime : Refuses time (digits ++ '\n' :: rest) :=
    refuses_fixedNumber all rest 2 0 23 (by decide) (by decide) fun _ _ other =>
      (refuses_exactly other).bind _
  exact (noDate.bind _).orElse noTime

end

section

variable (n : Nat) (rest : List Char)

/-- The digits of a number as its first and the others. -/
theorem exists_decimal_eq_cons :
    ∃ c digits, Text.decimal n = c :: digits ∧ c.isDigit = true ∧
      (∀ d ∈ digits, d.isDigit = true) ∧ (c = '0' → digits = []) := by
  have all : ∀ c ∈ Text.decimal n, c.isDigit = true := fun _ => Text.isDigit_of_mem_decimal
  have present : Text.decimal n ≠ [] := Nat.toDigits_ne_nil
  obtain ⟨c, digits, front⟩ := List.exists_cons_of_ne_nil present
  rw [front, List.forall_mem_cons] at all
  refine ⟨c, digits, front, all.1, all.2, fun zero => ?_⟩
  have alone := Text.decimal_of_leading_zero (n := n) (by rw [front, zero]; rfl)
  rw [front] at alone
  exact (List.cons.inj alone).2

theorem scans_sign {c : Char} (digit : c.isDigit = true) (more : List Char) :
    Scans sign (c :: more) (c :: more) (· = false) := by
  refine (scans_accept_other (isPrefixOf_cons_of_ne (ne_of_class digit (by decide)) _ _)).andThen ?_
  refine (scans_accept_other (isPrefixOf_cons_of_ne (ne_of_class digit (by decide)) _ _)).andThen ?_
  exact scans_pure rfl

theorem scans_digitRun {c : Char} (digit : c.isDigit = true) {digits : List Char}
    (all : ∀ d ∈ digits, d.isDigit = true) {bound : Nat} (room : 0 < bound) :
    Scans (digitRun Char.isDigit bound) (c :: (digits ++ '\n' :: rest)) ('\n' :: rest)
      (· = c :: digits) := by
  obtain ⟨bound, rfl⟩ := Nat.exists_eq_add_one.mpr room
  refine (scans_oneOf digit _).andThen ?_
  have more : Scans (moreDigits Char.isDigit (bound + 1)) (digits ++ '\n' :: rest) ('\n' :: rest)
      (· = digits) := by
    refine (scans_takeWhile all (.cons (by decide) rest)).andThen ?_
    refine (scans_accept_other (isPrefixOf_cons_of_ne (by decide) _ _)).andThen ?_
    exact scans_pure rfl
  refine more.andThen ?_
  exact scans_pure rfl

theorem scans_signedDigits {bound : Nat} (room : 0 < bound) :
    Scans (signedDigits bound) (Text.decimal n ++ '\n' :: rest) ('\n' :: rest)
      (· = (false, Text.decimal n)) := by
  obtain ⟨c, digits, decimal, digit, all, alone⟩ := exists_decimal_eq_cons n
  rw [decimal]
  refine (scans_sign digit _).andThen ?_
  by_cases zero : c = '0'
  · rw [zero, alone zero]
    refine (scans_accept ['0'] _).andThen ?_
    exact scans_pure rfl
  · refine (scans_accept_other (isPrefixOf_cons_of_ne (Ne.symm zero) _ _)).andThen ?_
    refine (scans_digitRun rest digit all room).andThen ?_
    exact scans_pure rfl

theorem refuses_digitFloat {bound : Nat} (room : 0 < bound) :
    Refuses (digitFloat bound) (Text.decimal n ++ '\n' :: rest) := by
  refine (scans_signedDigits n rest room).thenRefuses ?_
  dsimp only
  refine (scans_accept_other (isPrefixOf_cons_of_ne (by decide) _ _)).thenRefuses ?_
  rw [if_neg Bool.false_ne_true, pure_bind]
  have noExponent : Scans (exponent? bound) ('\n' :: rest) ('\n' :: rest) (· = none) := by
    refine (scans_look _).andThen ?_
    exact scans_pure rfl
  refine noExponent.thenRefuses ?_
  exact refuses_refuse

theorem refuses_namedFloat {c : Char} (digit : c.isDigit = true) (more : List Char) :
    Refuses namedFloat (c :: more) := by
  refine (scans_sign digit _).thenRefuses ?_
  refine (scans_accept_other (isPrefixOf_cons_of_ne (ne_of_class digit (by decide)) _ _)).thenRefuses ?_
  exact (refuses_exactly
    (isPrefixOf_cons_of_ne (ne_of_class digit (by decide)) _ _)).bind _

theorem scans_integer (small : n < 0x8000000000000000) {bound : Nat} (room : 0 < bound) :
    Scans (integer bound) (Text.decimal n ++ '\n' :: rest) ('\n' :: rest) (· = (n : Int)) := by
  obtain ⟨c, digits, decimal, digit, all, alone⟩ := exists_decimal_eq_cons n
  have noBase (mark : Char) (other : mark.isDigit = false) (notEnd : mark ≠ '\n') :
      ['0', mark].isPrefixOf (Text.decimal n ++ '\n' :: rest) = false := by
    rw [decimal]
    by_cases zero : c = '0'
    · rw [alone zero]
      simp [List.isPrefixOf, notEnd]
    · exact isPrefixOf_cons_of_ne (Ne.symm zero) _ _
  refine (scans_accept_other (noBase 'x' (by decide) (by decide))).andThen ?_
  refine (scans_accept_other (noBase 'o' (by decide) (by decide))).andThen ?_
  refine (scans_accept_other (noBase 'b' (by decide) (by decide))).andThen ?_
  refine (scans_signedDigits n rest room).andThen ?_
  dsimp only
  rw [Text.digitsValue_decimal]
  unfold narrow
  rw [if_neg Bool.false_ne_true, if_pos ⟨by omega, by omega⟩]
  exact scans_pure rfl

end

/-! ## Values -/

/-- A value in one word. -/
inductive Plain
  | text (s : String)
  | count (n : Nat)
  | switch (b : Bool)
deriving Repr, DecidableEq

/-- The item that a word stands for. -/
def Plain.item : Plain → Item
  | .text s => .text s
  | .count n => .integer n
  | .switch b => .boolean b

/-- The number is an integer of 64 bits. -/
def Plain.IsSmall : Plain → Prop
  | .count n => n < 0x8000000000000000
  | _ => True

/-- A string in double quotes, a number in its digits, or a truth value. -/
def Plain.written : Plain → List Char
  | .text s => '"' :: (s.toList.flatMap spelled ++ ['"'])
  | .count n => Text.decimal n
  | .switch true => ['t', 'r', 'u', 'e']
  | .switch false => ['f', 'a', 'l', 's', 'e']

theorem scans_boolean (b : Bool) (rest : List Char) :
    Scans boolean ((Plain.switch b).written ++ rest) rest (· = b) := by
  cases b with
  | true =>
    refine (scans_accept ['t', 'r', 'u', 'e'] rest).andThen ?_
    exact scans_pure rfl
  | false =>
    refine (scans_accept_other (isPrefixOf_cons_of_ne (by decide) _ _)).andThen ?_
    exact (scans_exactly ['f', 'a', 'l', 's', 'e'] rest).bind fun _ _ => scans_pure rfl

theorem length_le_spelled (cs : List Char) : cs.length ≤ (cs.flatMap spelled).length := by
  induction cs with
  | nil => exact Nat.le_refl 0
  | cons c cs ih =>
    have some : 0 < (spelled c).length := by
      unfold spelled
      split <;> exact Nat.succ_pos _
    rw [List.flatMap_cons, List.length_append, List.length_cons]
    omega

/-- A word begins with a quote, a digit or a letter. -/
theorem Plain.exists_written_eq_cons (v : Plain) :
    ∃ c more, v.written = c :: more ∧ isBlank c = false ∧ c ≠ '[' ∧ c ≠ '\x7b' := by
  cases v with
  | text s => exact ⟨'"', _, rfl, by decide, by decide, by decide⟩
  | count n =>
    obtain ⟨c, digits, decimal, digit, -, -⟩ := exists_decimal_eq_cons n
    have other (d : Char) (noDigit : d.isDigit = false) : c ≠ d := (ne_of_class digit noDigit).symm
    refine ⟨c, digits, decimal, ?_, other '[' (by decide), other '\x7b' (by decide)⟩
    simp [isBlank, other ' ' (by decide), other '\t' (by decide)]
  | switch b => cases b <;> exact ⟨_, _, rfl, by decide, by decide, by decide⟩

theorem Plain.ends_blank (v : Plain) (rest : List Char) : Ends isBlank (v.written ++ rest) := by
  obtain ⟨c, more, front, noBlank, -⟩ := v.exists_written_eq_cons
  rw [front]
  exact .cons noBlank _

section

variable {v : Plain} {bound : Nat}

theorem scans_scalar (small : v.IsSmall) (room : v.written.length < bound) (rest : List Char) :
    Scans (scalar bound) (v.written ++ '\n' :: rest) ('\n' :: rest) (· = v.item) := by
  refine (scans_look _).andThen ?_
  cases v with
  | text s =>
    have enough : s.toList.length < bound := by
      have longer := length_le_spelled s.toList
      simp only [Plain.written, List.length_cons, List.length_append] at room
      omega
    have read : Scans (Item.text <$> anyString bound)
        ('"' :: (s.toList.flatMap spelled ++ '"' :: '\n' :: rest)) ('\n' :: rest) (· = .text s) :=
      (scans_anyString s enough rest).map fun x same => congrArg Item.text same
    have text : (Plain.text s).written ++ '\n' :: rest =
        '"' :: (s.toList.flatMap spelled ++ '"' :: '\n' :: rest) := by
      simp [Plain.written]
    rw [text]
    exact read
  | count n =>
    obtain ⟨c, digits, decimal, digit, all, -⟩ := exists_decimal_eq_cons n
    have positive : 0 < bound := Nat.zero_lt_of_lt room
    have unquoted : ¬((c = '"' || c = '\'') = true) := by
      simp [(ne_of_class digit (by decide : '"'.isDigit = false)).symm,
        (ne_of_class digit (by decide : '\''.isDigit = false)).symm]
    have noWord : ¬((c = 't' || c = 'f') = true) := by
      simp [(ne_of_class digit (by decide : 't'.isDigit = false)).symm,
        (ne_of_class digit (by decide : 'f'.isDigit = false)).symm]
    have noMoment : Refuses (do moment; return Item.moment) (Text.decimal n ++ '\n' :: rest) :=
      (refuses_moment (fun _ => Text.isDigit_of_mem_decimal) rest).bind _
    have noDigits := (refuses_digitFloat n rest positive).map Item.float
    have noName : Refuses (Item.float <$> namedFloat) (Text.decimal n ++ '\n' :: rest) := by
      rw [decimal]
      exact (refuses_namedFloat digit _).map _
    have read : Scans (Item.integer <$> integer bound) (Text.decimal n ++ '\n' :: rest)
        ('\n' :: rest) (· = .integer n) :=
      (scans_integer n rest small positive).map fun x same => congrArg Item.integer same
    have number := noMoment.scans_orElse (noDigits.scans_orElse (noName.scans_orElse read))
    have front : ((Plain.count n).written ++ '\n' :: rest).head? = some c := by
      rw [Plain.written, decimal]
      rfl
    rw [front]
    dsimp only
    rw [if_neg unquoted, if_neg noWord]
    exact number
  | switch b =>
    have read : Scans (Item.boolean <$> boolean) ((Plain.switch b).written ++ '\n' :: rest)
        ('\n' :: rest) (· = .boolean b) :=
      (scans_boolean b _).map fun x same => congrArg Item.boolean same
    cases b <;> exact read

/-- A value at the end of a line. -/
theorem scans_value (small : v.IsSmall) (room : v.written.length < bound) (depth : Nat)
    (rest : List Char) :
    Scans (value bound (depth + 1)) (v.written ++ '\n' :: rest) ('\n' :: rest)
      fun x => x.1 = v.item := by
  have plain : Scans (scalar bound) _ _ _ := scans_scalar small room rest
  obtain ⟨c, more, front, -, noList, noTable⟩ := v.exists_written_eq_cons
  rw [front] at plain ⊢
  refine Scans.located (P := (· = v.item)) ?_
  refine (scans_accept_other (isPrefixOf_cons_of_ne noList.symm _ _)).andThen ?_
  refine (scans_accept_other (isPrefixOf_cons_of_ne noTable.symm _ _)).andThen ?_
  exact plain

end

end MeshTelemetry.Toml
