import MeshTelemetry.Text.Utf8

/-!
Identifiers of nodes: twelve bytes of text, usually a hardware address in hexadecimal digits.
The length is the only thing that is checked.
-/

namespace MeshTelemetry

/-- The length of an identifier in bytes. -/
def nodeIdLength : Nat := 12

/-- A node identifier of the right length. -/
structure NodeId where
  text : String
  length_eq : Text.byteLength text = nodeIdLength
deriving Repr, DecidableEq

/-- An identifier of a wrong length. -/
structure InvalidNodeId where
  raw : String
deriving Repr, DecidableEq

def InvalidNodeId.message (e : InvalidNodeId) : String :=
  "invalid node id '" ++ e.raw ++ "': expected " ++ toString nodeIdLength ++ " characters"

def NodeId.parse (raw : String) : Except InvalidNodeId NodeId :=
  if h : Text.byteLength raw = nodeIdLength then .ok ⟨raw, h⟩ else .error ⟨raw⟩

/-- Identifiers are ordered by their bytes. -/
instance : LE NodeId where
  le a b := a.text ≤ b.text

instance : DecidableLE NodeId := fun a b =>
  inferInstanceAs (Decidable (a.text ≤ b.text))

/-- Of texts in any order, the valid identifiers in ascending order, each once, and the invalid
ones in the order given. -/
def NodeId.sort (raws : List String) : List NodeId × List InvalidNodeId :=
  let read := raws.map NodeId.parse
  let valid := read.filterMap fun
    | .ok id => some id
    | .error _ => none
  let rejected := read.filterMap fun
    | .ok _ => none
    | .error e => some e
  ((valid.mergeSort fun a b => decide (a ≤ b)).eraseReps, rejected)

/-- Exactly the texts of twelve bytes are accepted, unchanged. -/
theorem NodeId.parse_eq_ok_iff {raw : String} {id : NodeId} :
    NodeId.parse raw = .ok id ↔ id.text = raw := by
  unfold NodeId.parse
  constructor
  · intro h
    split at h <;> cases h
    rfl
  · rintro rfl
    rw [dif_pos id.length_eq]

end MeshTelemetry
