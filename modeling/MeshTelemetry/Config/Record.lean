import MeshTelemetry.Mismatch
import MeshTelemetry.Toml.Complaint

/-!
Reading records from the values of a TOML document.

A record is read from a table by the names of its fields, or from a list by their order. What is
left out gets the default of its field, and names that are no fields are passed over. The first value in
the document that does not fit is the one complained about.
-/

namespace MeshTelemetry.Config

open Toml (Item Span Element Entries)

/-- A value of a document that does not fit, with its place if it has one of its own. -/
structure Unfit where
  mismatch : Mismatch
  span : Option Span
deriving Repr

/-- The complaint about a value of a text that does not fit. -/
def Unfit.complaint (text : String) (e : Unfit) : String :=
  Toml.complaint text (e.span.getD ⟨0, 0⟩) (e.mismatch.message Decimal.plainFormat)

/-- A reader of one value. -/
abbrev ItemReader (α : Type) :=
  Item → Except Unfit α

/-- What a value is in a complaint. -/
def found : Item → Found
  | .text s => .text s
  | .integer n => .integer n
  | .float x => .float x
  | .boolean b => .boolean b
  | .moment => .map
  | .list _ _ => .sequence
  | .table _ _ => .map

/-- The value is of another type than expected. -/
def unexpected {α : Type} (expected : String) (item : Item) : Except Unfit α :=
  .error ⟨.wrongType (found item) expected, none⟩

/-- Give a value that does not fit a place, unless it has one. -/
def placed {α : Type} (span : Option Span) : Except Unfit α → Except Unfit α
  | .error e => .error { e with span := e.span.or span }
  | ok => ok

/-! ## Plain values -/

/-- A text. -/
def readText : ItemReader String
  | .text s => .ok s
  | item => unexpected "a string" item

/-- A path. -/
def readPath : ItemReader String
  | .text s => .ok s
  | item => unexpected "path string" item

/-- A switch. -/
def readSwitch : ItemReader Bool
  | .boolean b => .ok b
  | item => unexpected "a boolean" item

/-- A number that is not negative. -/
def readCount : ItemReader Nat
  | .integer n =>
    if 0 ≤ n then .ok n.toNat else .error ⟨.wrongValue (.integer n) "u64", none⟩
  | item => unexpected "u64" item

/-! ## Records -/

/-- A setting, a field of a record. -/
structure Setting (σ : Type) where
  /-- The name in a document. -/
  name : String
  /-- Give the field its default, which holds when a document leaves it out. -/
  reset : σ → σ
  /-- Give the field the value of a document. -/
  put : σ → ItemReader σ

/-- The record with the default of every field. -/
def unset {σ : Type} (fields : List (Setting σ)) (record : σ) : σ :=
  fields.foldl (fun record f => f.reset record) record

/-- Read the entries of a table into a record. -/
def readEntries {σ : Type} (fields : List (Setting σ)) (record : σ) (entries : Entries) :
    Except Unfit σ :=
  entries.foldlM (fun record e =>
    match fields.find? fun f => f.name = e.name with
    | none => .ok record
    | some f => placed (some e.span) (f.put record e.item)) record

/-- Read the elements of a list into the fields of a record, one after the other. -/
def readElements {σ : Type} (fields : List (Setting σ)) (record : σ) (elements : List Element) :
    Except Unfit σ :=
  (fields.zip elements).foldlM (fun record (f, span, item) =>
    placed span (f.put record item)) record

/-- Read a record. A date has no fields. -/
def readRecord {σ : Type} [Inhabited σ] (name : String) (fields : List (Setting σ)) : ItemReader σ
  | .table _ entries => readEntries fields (unset fields default) entries
  | .list _ elements => readElements fields (unset fields default) elements
  | .moment => .ok (unset fields default)
  | item => unexpected ("struct " ++ name) item

end MeshTelemetry.Config
