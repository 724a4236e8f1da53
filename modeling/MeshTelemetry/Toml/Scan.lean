import MeshTelemetry.Text.Hex
import MeshTelemetry.Toml.Basic

/-!
The words of a TOML text: blanks, comments, line ends, keys and strings.

A scanner consumes characters from the front of the unread text or finds the text not to be TOML.
-/

namespace MeshTelemetry.Toml

/-- The unread text and the number of characters before it. -/
structure Cursor where
  rest : List Char
  offset : Nat
deriving Repr

/-- A step that reads from the front of the text. -/
abbrev Scan (α : Type) :=
  StateT Cursor Option α

/-- The text is not TOML. -/
def refuse {α : Type} : Scan α := fun _ =>
  none

/-- The next character, if there is one. -/
def look : Scan (Option Char) := fun c =>
  some (c.rest.head?, c)

/-- The unread text begins with these characters. -/
def startsWith (expected : List Char) : Scan Bool := fun c =>
  some (expected.isPrefixOf c.rest, c)

/-- Skip some characters. -/
def skip (count : Nat) : Scan Unit := fun c =>
  some ((), ⟨c.rest.drop count, c.offset + count⟩)

/-- Exactly these characters. -/
def exactly (expected : List Char) : Scan Unit := do
  if ← startsWith expected then skip expected.length else refuse

/-- These characters, if they come next; whether they did. -/
def accept (expected : List Char) : Scan Bool := do
  if ← startsWith expected then
    skip expected.length
    return true
  else return false

/-- The characters of a class at the front. -/
def takeWhile (p : Char → Bool) : Scan (List Char) := fun c =>
  let taken := c.rest.takeWhile p
  some (taken, ⟨c.rest.dropWhile p, c.offset + taken.length⟩)

/-- At least one character of a class. -/
def takeSome (p : Char → Bool) : Scan (List Char) := do
  let taken ← takeWhile p
  if taken.isEmpty then refuse else return taken

/-- What is read and where it stands. -/
def located {α : Type} (inner : Scan α) : Scan (α × Span) := fun c => do
  let (x, rest) ← inner c
  return ((x, ⟨c.offset, rest.offset⟩), rest)

/-! ## Blanks and line ends -/

/-- A blank inside a line. -/
def isBlank (c : Char) : Bool :=
  c = ' ' || c = '\t'

def blanks : Scan Unit := do
  let _ ← takeWhile isBlank

/-- A character of a comment: any but control characters, of which the tab is allowed. -/
def isPlain (c : Char) : Bool :=
  c = '\t' || (0x20 ≤ c.toNat && c.toNat ≠ 0x7f)

/-- A line break; whether there was one. -/
def lineBreak : Scan Bool := do
  if ← accept ['\n'] then return true else accept ['\r', '\n']

/-- A comment without the line break behind it, if one follows. -/
def comment : Scan Unit := do
  if ← accept ['#'] then
    let _ ← takeWhile isPlain

/-- A line break or the end of the text. -/
def lineEnd : Scan Unit := do
  if (← look).isNone then return ()
  if ← lineBreak then return () else refuse

/-- The end of a line behind a statement: blanks, perhaps a comment, and a line end. -/
def statementEnd : Scan Unit := do
  blanks
  comment
  lineEnd

/-- Blanks, comments and line breaks between the elements of a list; `bound` lines at most. -/
def gap : Nat → Scan Unit
  | 0 => refuse
  | bound + 1 => do
    blanks
    if (← look) = some '#' then
      comment
      if ← lineBreak then gap bound else refuse
    else if ← lineBreak then gap bound
    else return ()

/-! ## Strings -/

/-- A character of a string in double quotes that stands for itself. -/
def isBasic (c : Char) : Bool :=
  isPlain c && c ≠ '"' && c ≠ '\\'

/-- A character of a string in single quotes. -/
def isLiteral (c : Char) : Bool :=
  isPlain c && c ≠ '\''

/-- A character given by some hexadecimal digits. -/
def codePoint (count : Nat) : Scan Char := fun c =>
  let digits := c.rest.take count
  let values := digits.filterMap Text.Hex.value?
  let n := values.foldl (fun n v => 16 * n + v) 0
  if values.length = count ∧ n.isValidChar then
    some (Char.ofNat n, ⟨c.rest.drop count, c.offset + count⟩)
  else none

/-- The character behind a backslash. -/
def escaped : Scan Char := do
  let c ← look
  skip 1
  match c with
  | some 'b' => return '\x08'
  | some 'f' => return '\x0c'
  | some 'n' => return '\n'
  | some 'r' => return '\r'
  | some 't' => return '\t'
  | some '"' => return '"'
  | some '\\' => return '\\'
  | some 'u' => codePoint 4
  | some 'U' => codePoint 8
  | _ => refuse

/-- The rest of a string in double quotes on one line, behind what was `taken` of it, reversed. -/
def basicBody (taken : List Char) : Nat → Scan String
  | 0 => refuse
  | bound + 1 => do
    let plain ← takeWhile isBasic
    let taken := plain.reverse ++ taken
    if ← accept ['"'] then return String.ofList taken.reverse
    else if ← accept ['\\'] then basicBody ((← escaped) :: taken) bound
    else refuse

/-- The rest of a string in single quotes on one line. -/
def literalBody : Scan String := do
  let plain ← takeWhile isLiteral
  exactly ['\'']
  return String.ofList plain

/-- The end of a string over several lines: three quotes, with up to two more in front that belong
to the string. `none` if the quotes do not end the string. -/
def closing? (quote : Char) : Scan (Option (List Char)) := fun c =>
  let quotes := (c.rest.takeWhile (· = quote)).length
  if 3 ≤ quotes then
    let inside := min (quotes - 3) 2
    some (some (List.replicate inside quote), ⟨c.rest.drop (inside + 3), c.offset + inside + 3⟩)
  else some (none, c)

/-- The rest of a string in three double quotes. A backslash at the end of a line takes away the
line break and all blanks that follow. -/
def longBasicBody (taken : List Char) : Nat → Scan String
  | 0 => refuse
  | bound + 1 => do
    let plain ← takeWhile isBasic
    let taken := plain.reverse ++ taken
    match ← closing? '"' with
    | some inside => return String.ofList (taken.reverse ++ inside)
    | none =>
      if ← accept ['"'] then longBasicBody ('"' :: taken) bound
      else if ← lineBreak then longBasicBody ('\n' :: taken) bound
      else if ← accept ['\\'] then
        let atLineEnd ← fun c =>
          let behind := c.rest.dropWhile isBlank
          some (behind.head? = some '\n' || ['\r', '\n'].isPrefixOf behind, c)
        if atLineEnd then
          let start ← get
          swallow bound
          if start.offset < (← get).offset then longBasicBody taken bound else refuse
        else longBasicBody ((← escaped) :: taken) bound
      else refuse
where
  /-- Blanks and line breaks. -/
  swallow : Nat → Scan Unit
    | 0 => refuse
    | bound + 1 => do
      blanks
      if ← lineBreak then swallow bound else return ()

/-- The rest of a string in three single quotes. -/
def longLiteralBody (taken : List Char) : Nat → Scan String
  | 0 => refuse
  | bound + 1 => do
    let plain ← takeWhile isLiteral
    let taken := plain.reverse ++ taken
    match ← closing? '\'' with
    | some inside => return String.ofList (taken.reverse ++ inside)
    | none =>
      if ← accept ['\''] then longLiteralBody ('\'' :: taken) bound
      else if ← lineBreak then longLiteralBody ('\n' :: taken) bound
      else refuse

/-- A string of any kind. A line break right behind three opening quotes does not count. -/
def anyString (bound : Nat) : Scan String := do
  if ← accept ['"', '"', '"'] then
    let _ ← lineBreak
    longBasicBody [] bound
  else if ← accept ['"'] then basicBody [] bound
  else if ← accept ['\'', '\'', '\''] then
    let _ ← lineBreak
    longLiteralBody [] bound
  else
    exactly ['\'']
    literalBody

/-! ## Keys -/

/-- A character of a bare key. -/
def isBare (c : Char) : Bool :=
  c.isAlphanum || c = '_' || c = '-'

/-- One part of a key. -/
def simpleKey (bound : Nat) : Scan Key := do
  let (name, span) ← located do
    if ← accept ['"'] then basicBody [] bound
    else if ← accept ['\''] then literalBody
    else return String.ofList (← takeSome isBare)
  return ⟨name, span⟩

/-- The most parts of a key. -/
def keyLimit : Nat := 79

/-- A key of one or more parts with points between them. -/
def key (bound : Nat) : Nat → Scan (List Key)
  | 0 => refuse
  | parts + 1 => do
    blanks
    let first ← simpleKey bound
    blanks
    if ← accept ['.'] then return first :: (← key bound parts) else return [first]

end MeshTelemetry.Toml
