import MeshTelemetry.Toml.Draft
import MeshTelemetry.Toml.Scalar

/-!
Reading a TOML document.

Lists and tables in braces nest to a limited depth. Readers that repeat themselves take a `bound` on
how often, for which the length of the whole text will do.
-/

namespace MeshTelemetry.Toml

def settle {α : Type} (result : Option α) : Scan α := fun c =>
  result.map fun x => (x, c)

/-! ## Values -/

/-- The elements of a list in brackets behind the opening one, with commas between them and perhaps
behind the last. -/
def listBody (bound : Nat) (value : Scan (Item × Span)) (taken : List Element) :
    Nat → Scan (List Element)
  | 0 => refuse
  | count + 1 => do
    gap bound
    if ← accept [']'] then return taken
    else
      let (item, span) ← value
      let taken := taken ++ [(some span, item)]
      gap bound
      if ← accept [','] then listBody bound value taken count
      else
        exactly [']']
        return taken

/-- A key, an equals sign and a value. -/
def assignment (bound : Nat) (value : Scan (Item × Span)) : Scan (List Key × Item × Span) := do
  let path ← key bound keyLimit
  exactly ['=']
  blanks
  return (path, ← value)

/-- The entries of a table in braces, with commas between them. -/
def tableBody (bound : Nat) (value : Scan (Item × Span)) (taken : Entries) : Nat → Scan Entries
  | 0 => refuse
  | count + 1 => do
    let (path, item, span) ← assignment bound value
    let ((), taken) ← settle (assign path span item .braced taken)
    blanks
    if ← accept [','] then tableBody bound value taken count
    else
      exactly ['\x7d']
      return taken

/-- A table in braces behind the opening one. -/
def table (bound : Nat) (value : Scan (Item × Span)) : Scan Entries := do
  blanks
  if ← accept ['\x7d'] then return [] else tableBody bound value [] bound

/-- The number of lists and braces that a value may stand in. -/
def nestingLimit : Nat := 79

/-- A value with its place, nested at most to a depth. -/
def value (bound : Nat) : Nat → Scan (Item × Span)
  | 0 => located (scalar bound)
  | depth + 1 => located do
    if ← accept ['['] then .list .values <$> listBody bound (value bound depth) [] bound
    else if ← accept ['\x7b'] then .table .braced <$> table bound (value bound depth)
    else scalar bound

/-! ## Statements -/

/-- The key of a header and whether it is that of an element of a list of tables. -/
def headerKey (bound : Nat) : Scan (List Key × Bool) := do
  exactly ['[']
  let isElement ← accept ['[']
  let path ← key bound keyLimit
  exactly (if isElement then [']', ']'] else [']'])
  return (path, isElement)

/-- A header, alone on its line. -/
def header (bound : Nat) (d : Draft) : Scan Draft := do
  let ((path, isElement), span) ← located (headerKey bound)
  statementEnd
  settle (d.header? path isElement span)

/-- A key with a value, alone on its line or lines. -/
def setting (bound : Nat) (d : Draft) : Scan Draft := do
  let (path, item, span) ← assignment bound (value bound nestingLimit)
  statementEnd
  settle (d.assign? path span item)

/-- All statements up to the end of the text, at most as many as given. -/
def statements (bound : Nat) (d : Draft) : Nat → Scan Draft
  | 0 => refuse
  | count + 1 => do
    blanks
    match ← look with
    | none => return d
    | some c =>
      if c = '#' then
        comment
        lineEnd
        statements bound d count
      else if c = '[' then statements bound (← header bound d) count
      else if ← lineBreak then statements bound d count
      else statements bound (← setting bound d) count

/-- A whole document, perhaps behind a byte order mark. -/
def document (bound : Nat) : Scan Draft := do
  let _ ← accept ['\ufeff']
  statements bound .empty bound

/-- The entries of the document that a text holds; none if the text is not TOML. -/
def parse? (text : String) : Option Entries := do
  let chars := text.toList
  let (d, _) ← document (chars.length + 1) ⟨chars, 0⟩
  d.close?

end MeshTelemetry.Toml
