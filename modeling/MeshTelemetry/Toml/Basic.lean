/-!
TOML documents as trees.

A tree keeps what a reader of typed settings needs: values, the order of the entries of a table, and
where in the text keys and values stand. How a table came about is kept as well, because it decides
what may still be added to it.
-/

namespace MeshTelemetry.Toml

/-- A stretch of the text, counted in characters from its beginning. -/
structure Span where
  start : Nat
  stop : Nat
deriving Repr, DecidableEq

/-- A key with its place. -/
structure Key where
  name : String
  span : Span
deriving Repr, DecidableEq

/-- How a table came about. -/
inductive Form
  /-- By a header of its own, or as the document itself. -/
  | headed
  /-- As a step on the way to the header of a table inside it. -/
  | implied
  /-- By dotted keys. -/
  | dotted
  /-- In braces. -/
  | braced
deriving Repr, DecidableEq

/-- Whether the entries of a list are values in brackets or tables under repeated headers. -/
inductive ListForm
  | values
  | tables
deriving Repr, DecidableEq

/-- A value or table. Elements and entries come with their place, if they have one in the text. -/
inductive Item
  | text (s : String)
  | integer (n : Int)
  | float (x : Float)
  | boolean (b : Bool)
  /-- A date, a time or both, of which only its presence matters. -/
  | moment
  | list (form : ListForm) (elements : List (Option Span × Item))
  | table (form : Form) (entries : List (Key × Option Span × Item))
deriving Repr

/-- An element of a list. -/
abbrev Element := Option Span × Item

/-- An entry of a table. -/
abbrev Entry := Key × Option Span × Item

/-- The entries of a table, in their order. -/
abbrev Entries := List Entry

def Entry.name (e : Entry) : String :=
  e.1.name

/-- The place of an entry: that of its value, or of its key if the value has none. -/
def Entry.span (e : Entry) : Span :=
  e.2.1.getD e.1.span

def Entry.item (e : Entry) : Item :=
  e.2.2

/-- The entry of a name. -/
def Entries.find? (es : Entries) (name : String) : Option Entry :=
  List.find? (fun e : Entry => e.name = name) es

/-- Replace the value of the entry of a name. -/
def Entries.set (es : Entries) (name : String) (span : Option Span) (item : Item) : Entries :=
  es.map fun e => if e.name = name then (e.1, span, item) else e

end MeshTelemetry.Toml
