import MeshTelemetry.Proofs.Json.Run

/-!
# The spellings of a string

A character of a string can be written as it is, by a short escape, by its code unit, or by a
surrogate pair of code units. A `Quoted` is a string in one of its spellings. It is read as the
characters that it spells (`read?_stringBody`), and skipped from quote to quote
(`read?_skipString`), whichever spelling was chosen.
-/

namespace MeshTelemetry.Json

/-! ## Spellings -/

/-- Four hexadecimal digits. -/
structure CodeUnit where
  first : UInt8
  second : UInt8
  third : UInt8
  fourth : UInt8
  value : Nat
  value_eq : hexValue? first second third fourth = some value

/-- The digits of a code unit. -/
def CodeUnit.bytes (u : CodeUnit) : List UInt8 :=
  [u.first, u.second, u.third, u.fourth]

/-- A character that may stand in a string as it is. -/
def isPlain (c : Char) : Bool :=
  0x20 ≤ c.toNat && c ≠ '"' && c ≠ '\\'

/-- A character in one of its spellings. -/
inductive Spelling
  | plain (c : Char) (plain : isPlain c = true)
  | short (letter : UInt8) (c : Char) (stands : shortEscape? letter = some c)
  | unit (u : CodeUnit) (whole : isHighSurrogate u.value = false ∧ isLowSurrogate u.value = false)
  | pair (high low : CodeUnit)
    (halves : isHighSurrogate high.value = true ∧ isLowSurrogate low.value = true)

namespace Spelling

/-- The character that is spelled. -/
def char : Spelling → Char
  | plain c _ => c
  | short _ c _ => c
  | unit u _ => Char.ofNat u.value
  | pair high low _ =>
    Char.ofNat (0x10000 + (high.value - 0xd800) * 0x400 + (low.value - 0xdc00))

/-- The bytes of the spelling. -/
def bytes : Spelling → List UInt8
  | plain c _ => String.utf8EncodeChar c
  | short letter _ _ => [byte '\\', letter]
  | unit u _ => byte '\\' :: byte 'u' :: u.bytes
  | pair high low _ =>
    byte '\\' :: byte 'u' :: high.bytes ++ byte '\\' :: byte 'u' :: low.bytes

end Spelling

/-- A string in one of its spellings. -/
abbrev Quoted := List Spelling

/-- The string that is spelled. -/
def Quoted.text (q : Quoted) : String :=
  String.ofList (q.map (·.char))

/-- The bytes between the quotes. -/
def Quoted.inner (q : Quoted) : List UInt8 :=
  q.flatMap (·.bytes)

/-- The bytes of a quoted string. -/
def Quoted.bytes (q : Quoted) : List UInt8 :=
  byte '"' :: q.inner ++ [byte '"']

/-- A string as it is, if no character of it has to be escaped. -/
def Quoted.plain (s : String) (plain : s.toList.all isPlain = true) : Quoted :=
  s.toList.attach.map fun c => .plain c.1 (List.all_eq_true.mp plain c.1 c.2)

theorem Quoted.text_plain (s : String) (plain : s.toList.all isPlain = true) :
    (Quoted.plain s plain).text = s := by
  have chars : (Quoted.plain s plain).map (·.char) = s.toList := by
    unfold Quoted.plain
    rw [List.map_map]
    exact List.attach_map_subtype_val s.toList
  unfold Quoted.text
  rw [chars, String.ofList_toList]

/-! ## Escapes -/

theorem codeUnit_bytes (u : CodeUnit) (rest : List UInt8) :
    codeUnit (u.bytes ++ rest) = .ok (u.value, rest) := by
  simp only [CodeUnit.bytes, List.cons_append, List.nil_append, codeUnit, u.value_eq]

theorem shortEscape?_u : shortEscape? (byte 'u') = none := by decide

theorem escape_short {letter : UInt8} {c : Char} (stands : shortEscape? letter = some c)
    (rest : List UInt8) : escape (letter :: rest) = .ok (c, rest) := by
  simp only [escape, stands]

theorem escape_unicode (rest : List UInt8) : escape (byte 'u' :: rest) = unicodeEscape rest := by
  simp only [escape, shortEscape?_u, if_true]

theorem unicodeEscape_unit (u : CodeUnit)
    (whole : isHighSurrogate u.value = false ∧ isLowSurrogate u.value = false)
    (rest : List UInt8) :
    unicodeEscape (u.bytes ++ rest) = .ok (Char.ofNat u.value, rest) := by
  rw [← read?_eq_some_iff]
  unfold unicodeEscape
  rw [read?_bind, read?_eq_some_iff.mpr (codeUnit_bytes u rest)]
  simp [whole.1, whole.2]

theorem read?_pairByte (b : UInt8) (rest : List UInt8) :
    read? (pairByte b) (b :: rest) = some ((), rest) := by
  simp [read?, pairByte, Except.toOption]

/-- A high surrogate is no low one. -/
theorem isLowSurrogate_of_high {n : Nat} (high : isHighSurrogate n = true) :
    isLowSurrogate n = false := by
  simp only [isHighSurrogate, isLowSurrogate, Bool.and_eq_true, decide_eq_true_eq,
    Bool.and_eq_false_iff, decide_eq_false_iff_not] at high ⊢
  omega

theorem unicodeEscape_pair (high low : CodeUnit)
    (halves : isHighSurrogate high.value = true ∧ isLowSurrogate low.value = true)
    (rest : List UInt8) :
    unicodeEscape (high.bytes ++ byte '\\' :: byte 'u' :: (low.bytes ++ rest)) =
      .ok (Char.ofNat (0x10000 + (high.value - 0xd800) * 0x400 + (low.value - 0xdc00)), rest) := by
  rw [← read?_eq_some_iff]
  unfold unicodeEscape
  rw [read?_bind, read?_eq_some_iff.mpr (codeUnit_bytes high _)]
  simp [isLowSurrogate_of_high halves.1, halves.1, halves.2, read?_pairByte,
    read?_eq_some_iff.mpr (codeUnit_bytes low rest)]

theorem skipEscape_short {letter : UInt8} {c : Char} (stands : shortEscape? letter = some c)
    (rest : List UInt8) : skipEscape (letter :: rest) = .ok ((), rest) := by
  simp only [skipEscape, stands]

theorem skipEscape_unit (u : CodeUnit) (rest : List UInt8) :
    skipEscape (byte 'u' :: (u.bytes ++ rest)) = .ok ((), rest) := by
  simp only [skipEscape, shortEscape?_u, if_true, codeUnit_bytes]
  rfl

/-! ## The bytes of characters -/

/-- A byte of a longer encoding is no ASCII character. -/
theorem byte_of_utf8EncodeChar {c : Char} {b : UInt8} (mem : b ∈ String.utf8EncodeChar c) :
    (c.toNat ≤ 0x7f ∧ b.toNat = c.toNat) ∨ 0x80 ≤ b.toNat := by
  unfold String.utf8EncodeChar at mem
  dsimp only at mem
  split at mem
  · rename_i ascii
    rw [List.mem_singleton] at mem
    refine Or.inl ⟨ascii, ?_⟩
    rw [mem, UInt8.toNat_ofNat']
    exact Nat.mod_eq_of_lt (Nat.lt_of_le_of_lt ascii (by decide))
  · refine Or.inr ?_
    split at mem
    · simp only [List.mem_cons, List.not_mem_nil, or_false] at mem
      rcases mem with rfl | rfl <;> simp only [UInt8.toNat_ofNat'] <;> omega
    · split at mem
      · simp only [List.mem_cons, List.not_mem_nil, or_false] at mem
        rcases mem with rfl | rfl | rfl <;> simp only [UInt8.toNat_ofNat'] <;> omega
      · simp only [List.mem_cons, List.not_mem_nil, or_false] at mem
        rcases mem with rfl | rfl | rfl | rfl <;> simp only [UInt8.toNat_ofNat'] <;> omega

/-- A byte that neither ends a string nor opens an escape nor is a control character. -/
def isPlainByte (b : UInt8) : Bool :=
  b ≠ byte '"' && b ≠ byte '\\' && !decide (b < 0x20)

/-- The bytes of a character that stands for itself do so as well. -/
theorem isPlainByte_of_isPlain {c : Char} (plain : isPlain c = true) {b : UInt8}
    (mem : b ∈ String.utf8EncodeChar c) : isPlainByte b = true := by
  have quote : c ≠ '"' → c.toNat ≠ 0x22 := fun ne eq => ne (Char.toNat_inj.mp eq)
  have slash : c ≠ '\\' → c.toNat ≠ 0x5c := fun ne eq => ne (Char.toNat_inj.mp eq)
  simp only [isPlain, Bool.and_eq_true, decide_eq_true_eq] at plain
  have apart : b.toNat ≠ 0x22 ∧ b.toNat ≠ 0x5c ∧ 0x20 ≤ b.toNat := by
    have notQuote := quote plain.1.2
    have notSlash := slash plain.2
    rcases byte_of_utf8EncodeChar mem with ⟨-, same⟩ | beyond <;> omega
  have bytes : b ≠ byte '"' ∧ b ≠ byte '\\' :=
    ⟨fun eq => apart.1 (congrArg UInt8.toNat eq), fun eq => apart.2.1 (congrArg UInt8.toNat eq)⟩
  simp [isPlainByte, bytes.1, bytes.2, UInt8.lt_iff_toNat_lt, apart.2.2]

/-! ## Strings that are kept -/

theorem stringBytes_quote (taken : Array UInt8) (rest : List UInt8) :
    stringBytes taken (byte '"' :: rest) = .ok (taken, rest) := by
  unfold stringBytes
  rw [if_pos rfl]

theorem stringBytes_escape (taken : Array UInt8) {rest more : List UInt8} {c : Char}
    (escaped : escape rest = .ok (c, more)) :
    stringBytes taken (byte '\\' :: rest) =
      stringBytes (taken ++ String.utf8EncodeChar c) more := by
  rw [stringBytes]
  rw [if_neg (by decide), if_pos rfl]
  split
  · rename_i failed
    cases failed.symm.trans escaped
  · rename_i read
    cases read.symm.trans escaped
    rfl

theorem stringBytes_plain (taken : Array UInt8) {b : UInt8} (plain : isPlainByte b = true)
    (rest : List UInt8) : stringBytes taken (b :: rest) = stringBytes (taken.push b) rest := by
  simp only [isPlainByte, Bool.and_eq_true, Bool.not_eq_true', decide_eq_true_eq,
    decide_eq_false_iff_not] at plain
  rw [stringBytes]
  rw [if_neg plain.1.1, if_neg plain.1.2, if_neg plain.2]

theorem stringBytes_plains (taken : Array UInt8) {bs : List UInt8}
    (plain : ∀ b ∈ bs, isPlainByte b = true) (rest : List UInt8) :
    stringBytes taken (bs ++ rest) = stringBytes (taken ++ bs) rest := by
  induction bs generalizing taken with
  | nil => simp
  | cons b bs ih =>
    rw [List.forall_mem_cons] at plain
    rw [List.cons_append, stringBytes_plain taken plain.1, ih _ plain.2]
    simp

/-- Whatever its spelling, a character adds its own bytes. -/
theorem stringBytes_spelling (taken : Array UInt8) (s : Spelling) (rest : List UInt8) :
    stringBytes taken (s.bytes ++ rest) =
      stringBytes (taken ++ String.utf8EncodeChar s.char) rest := by
  cases s with
  | plain c plain => exact stringBytes_plains taken (fun b => isPlainByte_of_isPlain plain) rest
  | short letter c stands => exact stringBytes_escape taken (escape_short stands rest)
  | unit u whole =>
    exact stringBytes_escape taken ((escape_unicode _).trans (unicodeEscape_unit u whole rest))
  | pair high low halves =>
    simp only [Spelling.bytes, List.cons_append, List.append_assoc]
    exact stringBytes_escape taken
      ((escape_unicode _).trans (unicodeEscape_pair high low halves rest))

theorem stringBytes_quoted (taken : Array UInt8) (q : Quoted) (rest : List UInt8) :
    stringBytes taken (q.inner ++ byte '"' :: rest) =
      .ok (taken ++ (q.map (·.char)).flatMap String.utf8EncodeChar, rest) := by
  induction q generalizing taken with
  | nil => simp [Quoted.inner, stringBytes_quote]
  | cons s q ih =>
    have inner : Quoted.inner (s :: q) = s.bytes ++ Quoted.inner q := rfl
    rw [inner, List.append_assoc, stringBytes_spelling, ih, List.map_cons, List.flatMap_cons]
    have same (xs ys : List UInt8) : taken ++ xs ++ ys = taken ++ (xs ++ ys) := by
      apply Array.ext'
      simp
    rw [same]

/-- The bytes of some characters are the text of these characters. -/
theorem fromUTF8?_ofList (cs : List Char) :
    String.fromUTF8? ⟨(cs.flatMap String.utf8EncodeChar).toArray⟩ = some (String.ofList cs) := by
  have bytes : (⟨(cs.flatMap String.utf8EncodeChar).toArray⟩ : ByteArray) = cs.utf8Encode := by
    apply ByteArray.ext
    simp [List.utf8Encode]
  rw [bytes, String.fromUTF8?, dif_pos ByteArray.isValidUTF8_utf8Encode]
  rfl

/-- A string is read as the characters that it spells. -/
theorem read?_stringBody (q : Quoted) (rest : List UInt8) :
    read? stringBody (q.inner ++ byte '"' :: rest) = some (q.text, rest) := by
  have bytes : read? (stringBytes #[]) (q.inner ++ byte '"' :: rest) =
      some (((q.map (·.char)).flatMap String.utf8EncodeChar).toArray, rest) := by
    rw [read?_eq_some_iff]
    simpa using stringBytes_quoted #[] q rest
  unfold stringBody
  rw [read?_bind, bytes, Option.bind_some]
  dsimp only
  rw [fromUTF8?_ofList]
  rfl

/-! ## Strings that are skipped -/

theorem skipString_quote (rest : List UInt8) : skipString (byte '"' :: rest) = .ok ((), rest) := by
  unfold skipString
  rw [if_pos rfl]

theorem skipString_escape {rest more : List UInt8} (escaped : skipEscape rest = .ok ((), more)) :
    skipString (byte '\\' :: rest) = skipString more := by
  rw [skipString]
  rw [if_neg (by decide), if_pos rfl]
  split
  · rename_i failed
    cases failed.symm.trans escaped
  · rename_i read
    cases read.symm.trans escaped
    rfl

theorem skipString_plains {bs : List UInt8} (plain : ∀ b ∈ bs, isPlainByte b = true)
    (rest : List UInt8) : skipString (bs ++ rest) = skipString rest := by
  induction bs with
  | nil => rfl
  | cons b bs ih =>
    rw [List.forall_mem_cons] at plain
    obtain ⟨first, plain⟩ := plain
    simp only [isPlainByte, Bool.and_eq_true, Bool.not_eq_true', decide_eq_true_eq,
      decide_eq_false_iff_not] at first
    rw [List.cons_append, skipString]
    rw [if_neg first.1.1, if_neg first.1.2, if_neg first.2, ih plain]

theorem skipString_spelling (s : Spelling) (rest : List UInt8) :
    skipString (s.bytes ++ rest) = skipString rest := by
  cases s with
  | plain c plain => exact skipString_plains (fun b => isPlainByte_of_isPlain plain) rest
  | short letter c stands => exact skipString_escape (skipEscape_short stands rest)
  | unit u whole => exact skipString_escape (skipEscape_unit u rest)
  | pair high low halves =>
    -- To the skipping reader the two halves are two escapes.
    simp only [Spelling.bytes, List.cons_append, List.append_assoc]
    rw [skipString_escape (skipEscape_unit high _), skipString_escape (skipEscape_unit low rest)]

/-- A string is skipped up to its closing quote. -/
theorem read?_skipString (q : Quoted) (rest : List UInt8) :
    read? skipString (q.inner ++ byte '"' :: rest) = some ((), rest) := by
  rw [read?_eq_some_iff]
  induction q with
  | nil => exact skipString_quote rest
  | cons s q ih =>
    have inner : Quoted.inner (s :: q) = s.bytes ++ Quoted.inner q := rfl
    rw [inner, List.append_assoc, skipString_spelling, ih]

end MeshTelemetry.Json
