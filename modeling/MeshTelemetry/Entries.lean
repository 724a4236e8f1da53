/-!
Entries sorted by key, each key once: the form in which objects, tags and fields are kept.
-/

namespace MeshTelemetry.Entries

variable {α : Type}

/-- Put an entry in front, unless the list begins with one of the same key. -/
def consFresh (entry : String × α) (entries : List (String × α)) : List (String × α) :=
  match entries with
  | [] => [entry]
  | next :: rest => if entry.1 = next.1 then next :: rest else entry :: next :: rest

/-- Entries in any order, sorted by key; of several with one key the last is taken. -/
def ofList (entries : List (String × α)) : List (String × α) :=
  (entries.mergeSort fun a b => decide (a.1 ≤ b.1)).foldr consFresh []

end MeshTelemetry.Entries
