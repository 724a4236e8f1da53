import MeshTelemetry.Toml.Basic

/-!
Documents under construction, and what may be added to a table.

Headers reach through tables of any form but braces, and keys with points only through tables that
nothing but points or inner headers have brought about. A name is given once in a table. The table
under the latest header stays open, apart from the document, until the next header or the end.
-/

namespace MeshTelemetry.Toml

/-- A change of the entries of a table that may be refused. It depends on the form of the table and
may answer something. -/
abbrev Change (α : Type) :=
  Form → Entries → Option (α × Entries)

/-- A table of the given form may be on the way of a header, or of a dotted key. -/
def Form.isPassable (dotted : Bool) : Form → Bool
  | .headed => !dotted
  | .implied => true
  | .dotted => true
  | .braced => false

/-- Change the table at the end of a path. Tables missing on the way are made, and of a list of
tables the last is taken. -/
def Change.under {α : Type} (dotted : Bool) (change : Change α) : List Key → Change α
  | [], form, es => change form es
  | k :: path, _, es =>
    match es.find? k.name with
    | none => do
      let form := if dotted then .dotted else .implied
      let (x, inner) ← change.under dotted path form []
      return (x, es ++ [(k, none, .table form inner)])
    | some (_, span, .table form inner) =>
      if form.isPassable dotted then do
        let (x, inner) ← change.under dotted path form inner
        return (x, es.set k.name span (.table form inner))
      else none
    | some (_, span, .list .tables elements) =>
      match elements.getLast? with
      | some (place, .table form inner) => do
        let (x, inner) ← change.under dotted path form inner
        let elements := elements.dropLast ++ [(place, .table form inner)]
        return (x, es.set k.name span (.list .tables elements))
      | _ => none
    | some _ => none

/-- Add an entry under a new name. -/
def Change.insert (entry : Entry) : Change Unit := fun _ es =>
  if (es.find? entry.name).isSome then none else some ((), es ++ [entry])

/-- The last part of a path and the parts before it. -/
def splitPath? (path : List Key) : Option (List Key × Key) :=
  path.getLast?.map fun k => (path.dropLast, k)

/-- Add a value under a key. A key with points does not reach into a table that has been given in
another way. -/
def assign (key : List Key) (span : Span) (item : Item) : Change Unit := fun form es => do
  let (path, last) ← splitPath? key
  let change : Change Unit := fun form es =>
    if decide (form = .dotted) = path.isEmpty then none
    else Change.insert (last, some span, item) form es
  change.under true path form es

/-- The table under the latest header. -/
structure OpenTable where
  path : List Key
  /-- The header is that of an element of a list of tables. -/
  isElement : Bool
  entries : Entries
  /-- From the header to the latest value; the document itself has no header. -/
  span : Option Span

/-- A document as far as it has been read. -/
structure Draft where
  root : Entries
  current : OpenTable

/-- Nothing has been read. -/
def Draft.empty : Draft :=
  ⟨[], [], false, [], none⟩

/-- Add a value to the open table. -/
def Draft.assign? (d : Draft) (key : List Key) (span : Span) (item : Item) : Option Draft := do
  let ((), entries) ← assign key span item .headed d.current.entries
  let whole := d.current.span.map fun s => ⟨s.start, span.stop⟩
  return { d with current := { d.current with entries, span := whole } }

/-- The place of a list of tables, from its first to its last element. -/
def listSpan (elements : List Element) : Option Span := do
  let first ← (← elements.head?).1
  let last ← (← elements.getLast?).1
  return ⟨first.start, last.stop⟩

/-- Put an element at the end of the list of tables under a name. -/
def Change.append (last : Key) (element : Element) : Change Unit := fun _ es =>
  match es.find? last.name with
  | some (_, _, .list .tables elements) =>
    let elements := elements ++ [element]
    some ((), es.set last.name (listSpan elements) (.list .tables elements))
  | _ => none

/-- Put the open table where its header says. -/
def Draft.close? (d : Draft) : Option Entries :=
  let table := d.current
  match splitPath? table.path with
  | none => some table.entries
  | some (path, last) => do
    let item := Item.table .headed table.entries
    let change :=
      if table.isElement then Change.append last (table.span, item)
      else Change.insert (last, table.span, item)
    let ((), root) ← change.under false path .headed d.root
    return root

/-- Take the table of a name out of its table, to add to it under a header of its own. Only a table
that inner headers have brought about can be taken. -/
def Change.reopen (last : Key) : Change Entries := fun _ es =>
  match es.find? last.name with
  | none => some ([], es)
  | some (_, _, .table .implied inner) =>
    some (inner, List.filter (fun e : Entry => e.name ≠ last.name) es)
  | some _ => none

/-- Make sure that there is a list of tables under a name. -/
def Change.provide (last : Key) : Change Entries := fun _ es =>
  match es.find? last.name with
  | none => some ([], es ++ [(last, none, .list .tables [])])
  | some (_, _, .list .tables _) => some ([], es)
  | some _ => none

/-- Go on to the table of the next header. -/
def Draft.header? (d : Draft) (key : List Key) (isElement : Bool) (span : Span) :
    Option Draft := do
  let root ← d.close?
  let (path, last) ← splitPath? key
  let change := if isElement then Change.provide last else Change.reopen last
  let (entries, root) ← change.under false path .headed root
  return ⟨root, key, isElement, entries, some span⟩

end MeshTelemetry.Toml
