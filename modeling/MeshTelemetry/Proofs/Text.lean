import MeshTelemetry.Text.Natural
import MeshTelemetry.Text.Split

/-!
# Cutting texts and reading numbers

A text is cut at the last place where a separator of two different characters stands
(`splitLast?_append`), and not at all if it stands nowhere (`splitLast?_eq_none_iff`).

`readNatural_eq_ok_iff` says which texts are read as numbers up to a limit: decimal digits, however many,
behind at most one plus sign. The digits that a number is written with have its value
(`digitsValue_decimal`), and no zero stands in front of others (`decimal_of_leading_zero`).
-/

namespace MeshTelemetry.Text

/-! ## The last separator -/

theorem splitLast?_cons (separator : List Char) (c : Char) (rest : List Char) :
    splitLast? separator (c :: rest) =
      ((splitLast? separator rest).map fun (before, behind) => (c :: before, behind)).or
        (if separator.isPrefixOf (c :: rest) then some ([], (c :: rest).drop separator.length)
        else none) := by
  rw [splitLast?]
  cases splitLast? separator rest <;> rfl

/-- A text is cut wherever it holds the separator. -/
theorem splitLast?_eq_none_iff {separator : List Char} (present : separator ≠ [])
    {text : List Char} : splitLast? separator text = none ↔ ¬separator <:+: text := by
  induction text with
  | nil => simp [splitLast?, present]
  | cons c rest ih =>
    rw [splitLast?_cons, Option.or_eq_none_iff, Option.map_eq_none_iff, ih, List.infix_cons_iff,
      not_or, and_comm]
    simp

/-- The parts around a separator are the text. -/
theorem eq_append_of_splitLast? {separator text before behind : List Char}
    (cut : splitLast? separator text = some (before, behind)) :
    text = before ++ separator ++ behind := by
  induction text generalizing before with
  | nil => cases cut
  | cons c rest ih =>
    rw [splitLast?_cons] at cut
    rcases Option.or_eq_some_iff.mp cut with later | ⟨-, here⟩
    · obtain ⟨⟨inner, _⟩, found, same⟩ := Option.map_eq_some_iff.mp later
      cases same
      rw [ih found]
      rfl
    · obtain ⟨starts, same⟩ := Option.ite_none_right_eq_some.mp here
      cases same
      exact (List.prefix_iff_eq_append.mp (List.isPrefixOf_iff_prefix.mp starts)).symm

/-- Of a separator of two different characters the last one is found. -/
theorem splitLast?_append {a b : Char} (distinct : a ≠ b) {behind : List Char}
    (last : ¬[a, b] <:+: behind) (before : List Char) :
    splitLast? [a, b] (before ++ a :: b :: behind) = some (before, behind) := by
  have none_behind : splitLast? [a, b] behind = none :=
    (splitLast?_eq_none_iff (List.cons_ne_nil _ _)).mpr last
  induction before with
  | nil => simp [splitLast?_cons, none_behind, distinct]
  | cons c before ih => rw [List.cons_append, splitLast?_cons, ih]; rfl

/-! ## Numbers -/

/-- The text names a number up to a limit: decimal digits, behind a plus sign or not. -/
def IsNumeral (limit : Nat) (text : List Char) (n : Nat) : Prop :=
  ∃ digits, (text = digits ∨ text = '+' :: digits) ∧ digits ≠ [] ∧
    (∀ c ∈ digits, c.isDigit = true) ∧ digitsValue 0 digits = n ∧ n ≤ limit

theorem digitsValue_cons (value : Nat) (c : Char) (digits : List Char) :
    digitsValue value (c :: digits) = digitsValue (10 * value + (c.toNat - 48)) digits := by
  unfold digitsValue
  rw [List.foldl_cons]

theorem le_digitsValue (value : Nat) (digits : List Char) : value ≤ digitsValue value digits := by
  induction digits generalizing value with
  | nil => exact Nat.le_refl value
  | cons c digits ih =>
    rw [digitsValue_cons]
    exact Nat.le_trans (by omega) (ih _)

/-- Digit by digit the limit is kept exactly if the whole number keeps it. -/
theorem readDigits_eq_ok_iff {limit value n : Nat} {digits : List Char} (fits : value ≤ limit) :
    readDigits limit value digits = .ok n ↔
      (∀ c ∈ digits, c.isDigit = true) ∧ digitsValue value digits = n ∧ n ≤ limit := by
  induction digits generalizing value with
  | nil =>
    constructor
    · intro read
      cases read
      exact ⟨by simp, rfl, fits⟩
    · rintro ⟨-, rfl, -⟩
      rfl
  | cons c digits ih =>
    rw [readDigits, digitsValue_cons, List.forall_mem_cons]
    by_cases digit : c.isDigit = true
    · by_cases next : 10 * value + (c.toNat - 48) ≤ limit
      · simp [digit, next, ih next]
      · have grown := le_digitsValue (10 * value + (c.toNat - 48)) digits
        simp only [digit, next, if_true, if_false, true_and]
        constructor
        · intro read
          cases read
        · rintro ⟨-, rfl, small⟩
          exact absurd (Nat.le_trans grown small) next
    · simp [digit]

section

variable {limit n : Nat} {text rest : List Char}

theorem readDigits_eq_ok_iff_isNumeral (present : text ≠ [])
    (unsigned : ∀ rest, text ≠ '+' :: rest) :
    readDigits limit 0 text = .ok n ↔ IsNumeral limit text n := by
  rw [readDigits_eq_ok_iff (Nat.zero_le limit)]
  constructor
  · rintro ⟨digits, value, fits⟩
    exact ⟨text, .inl rfl, present, digits, value, fits⟩
  · rintro ⟨digits, rfl | signed, -, all, value, fits⟩
    · exact ⟨all, value, fits⟩
    · exact absurd signed (unsigned digits)

theorem readDigits_eq_ok_iff_isNumeral_plus (present : rest ≠ []) :
    readDigits limit 0 rest = .ok n ↔ IsNumeral limit ('+' :: rest) n := by
  rw [readDigits_eq_ok_iff (Nat.zero_le limit)]
  constructor
  · rintro ⟨digits, value, fits⟩
    exact ⟨rest, .inr rfl, present, digits, value, fits⟩
  · rintro ⟨digits, rfl | signed, -, all, value, fits⟩
    · -- A plus sign is no digit.
      exact absurd (all '+' (List.mem_cons_self ..)) (by decide)
    · cases signed
      exact ⟨all, value, fits⟩

/-- Exactly the texts of numbers up to the limit are read, each as its number. -/
theorem readNatural_eq_ok_iff : readNatural limit text = .ok n ↔ IsNumeral limit text n := by
  unfold readNatural
  split
  · simp [IsNumeral]
  · rename_i c
    split
    · rename_i digit
      refine readDigits_eq_ok_iff_isNumeral (List.cons_ne_nil _ _) fun rest signed => ?_
      cases signed
      exact absurd digit (by decide)
    · rename_i other
      constructor
      · intro read
        cases read
      · rintro ⟨digits, rfl | signed, present, all, -⟩
        · exact absurd (all c (List.mem_cons_self ..)) other
        · exact absurd (List.cons.inj signed).2.symm present
  · rename_i rest alone
    exact readDigits_eq_ok_iff_isNumeral_plus alone
  · rename_i present _ unsigned
    exact readDigits_eq_ok_iff_isNumeral present unsigned

end

/-! ## Runs of characters -/

/-- No character of a class stands at the front of a text. -/
def Ends (p : Char → Bool) (rest : List Char) : Prop :=
  ∀ c ∈ rest.head?, p c = false

section

variable {p : Char → Bool}

theorem Ends.cons {c : Char} (outside : p c = false) (more : List Char) : Ends p (c :: more) := by
  intro d same
  cases same
  exact outside

theorem ends_nil (p : Char → Bool) : Ends p [] := by
  intro c inside
  cases inside

variable {run rest : List Char}

theorem takeWhile_of_ends (ends : Ends p rest) : rest.takeWhile p = [] := by
  cases rest with
  | nil => rfl
  | cons c more => rw [List.takeWhile_cons, ends c rfl]; rfl

theorem dropWhile_of_ends (ends : Ends p rest) : rest.dropWhile p = rest := by
  cases rest with
  | nil => rfl
  | cons c more => rw [List.dropWhile_cons, ends c rfl]; rfl

theorem takeWhile_append_ends (all : ∀ c ∈ run, p c = true) (ends : Ends p rest) :
    (run ++ rest).takeWhile p = run := by
  rw [List.takeWhile_append_of_pos all, takeWhile_of_ends ends, List.append_nil]

theorem dropWhile_append_ends (all : ∀ c ∈ run, p c = true) (ends : Ends p rest) :
    (run ++ rest).dropWhile p = rest := by
  rw [List.dropWhile_append_of_pos all, dropWhile_of_ends ends]

end

/-! ## Digits of a number -/

theorem digitsValue_decimal (n : Nat) : digitsValue 0 (decimal n) = n :=
  Nat.ofDigitChars_toDigits (by decide) (by decide)

theorem isDigit_of_mem_decimal {n : Nat} {c : Char} (inside : c ∈ decimal n) : c.isDigit = true :=
  Nat.isDigit_of_mem_toDigits (by decide) (by decide) inside

/-- Only zero is written with a zero in front. -/
theorem decimal_of_leading_zero {n : Nat} (leading : (decimal n).head? = some '0') :
    decimal n = ['0'] := by
  induction n using Nat.strongRecOn with
  | ind n ih =>
    unfold decimal at leading ⊢
    rcases Nat.lt_or_ge n 10 with small | large
    · rw [Nat.toDigits_of_lt_base small] at leading ⊢
      exact congrArg (fun c => [c]) (Option.some.inj leading)
    · rw [Nat.toDigits_of_base_le (by decide) large,
        List.head?_append, Option.or_of_isSome (List.isSome_head?.mpr Nat.toDigits_ne_nil)] at leading
      -- The digits in front are those of a number that is not zero.
      have front := ih (n / 10) (by omega) leading
      have value := digitsValue_decimal (n / 10)
      rw [front] at value
      have zero : 0 = n / 10 := value
      omega

end MeshTelemetry.Text
