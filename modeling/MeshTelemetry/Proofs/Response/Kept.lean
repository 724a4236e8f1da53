import MeshTelemetry.Proofs.Json.Kept
import MeshTelemetry.Proofs.Response.Meaning

/-!
# What is kept in a response

Whatever text a response was read from, as an object or as a list, with keys repeated or not: the
untyped members of its sections and of its software are in a definite form (`KeptMembers`). Their keys
ascend strictly and none of them is typed, and their values have the form of kept values.
`Response.yields_read` is the result for a whole response.
-/

namespace MeshTelemetry

open Json

/-! ## Untyped members -/

/-- Members beside the typed ones: their keys ascend strictly, no typed key is among them, and their
values are kept inside the given number of brackets. -/
structure KeptMembers (keys : List String) (levels : Nat) (ms : Members) : Prop where
  ascending : ms.Pairwise fun a b => a.1 < b.1
  untyped : ∀ m ∈ ms, m.1 ∉ keys
  kept : ∀ m ∈ ms, m.2.Kept levels

/-- Picked members are in this form if none has a typed key or a value in another form. -/
theorem keptMembers_ofList {μ : Type} {keys : List String} {levels : Nat}
    {pick : μ → Option (String × Value)} {ms : List μ}
    (each : ∀ m ∈ ms, ∀ e, pick m = some e → e.1 ∉ keys ∧ e.2.Kept levels) :
    KeptMembers keys levels (Entries.ofList (ms.filterMap pick)) := by
  have inside {e : String × Value} (mem : e ∈ Entries.ofList (ms.filterMap pick)) :
      e.1 ∉ keys ∧ e.2.Kept levels := by
    obtain ⟨m, mem, picked⟩ := List.mem_filterMap.mp (Entries.mem_of_mem_ofList mem)
    exact each m mem e picked
  exact ⟨Entries.pairwise_ofList _, fun e mem => (inside mem).1, fun e mem => (inside mem).2⟩

/-! ## The software -/

/-- The untyped members of a software description are in the form in which they are kept. -/
def Software.Kept (s : Software) : Prop :=
  KeptMembers ["firmware"] (Json.nestingLimit - 3) s.extra

/-- A member that software can be put together from. -/
def Software.Member.Sound : Software.Member → Prop
  | .firmware _ => True
  | .extra key v => key ∉ ["firmware"] ∧ v.Kept (Json.nestingLimit - 3)

theorem Software.yields_member (bound : Nat) (key : String) :
    Yields ((Software.shape bound).member key) Software.Member.Sound := by
  unfold Software.shape
  dsimp only
  split
  · exact (yields_any _).map fun _ _ => trivial
  · rename_i firmware
    exact (yields_value bound _).map fun v kept => ⟨by simpa using firmware, kept⟩

theorem Software.yields_read (bound : Nat) : Yields (Software.read bound) Software.Kept := by
  refine (yields_object (Software.yields_member bound) _ bound).map fun ms all => ?_
  refine keptMembers_ofList fun m mem e picked => ?_
  cases m with
  | firmware v => cases picked
  | extra key v =>
    cases picked
    exact all _ mem

/-! ## Sections -/

/-- What is kept of the description of a node is in the form in which it is kept. -/
structure NodeInfo.Kept (n : NodeInfo) : Prop where
  software : ∀ s, n.software = some s → s.Kept
  extra : KeptMembers NodeInfo.keys (Json.nestingLimit - 2) n.extra

/-- A member that the description of a node can be put together from. -/
def NodeInfo.Member.Sound : NodeInfo.Member → Prop
  | .software v => ∀ s, v = some s → s.Kept
  | .extra key v => key ∉ NodeInfo.keys ∧ v.Kept (Json.nestingLimit - 2)
  | _ => True

theorem NodeInfo.yields_member (bound : Nat) (key : String) :
    Yields ((NodeInfo.shape bound).member key) NodeInfo.Member.Sound := by
  unfold NodeInfo.shape
  dsimp only
  split
  · exact (yields_any _).map fun _ _ => trivial
  · exact (yields_any _).map fun _ _ => trivial
  · exact (yields_any _).map fun _ _ => trivial
  · exact (yields_any _).map fun _ _ => trivial
  · exact (yields_optional (Software.yields_read bound)).map fun _ kept => kept
  · rename_i nodeId id hostname hardware software
    exact (yields_value bound _).map fun v kept =>
      ⟨NodeInfo.not_mem_keys nodeId id hostname hardware software, kept⟩

/-- A field that was found is that of some member. -/
theorem exists_of_join {μ α : Type} {pick : μ → Option (Option α)} {ms : List μ} {x : α}
    (found : (ms.findSome? pick).join = some x) : ∃ m ∈ ms, pick m = some (some x) :=
  List.exists_of_findSome?_eq_some (Option.join_eq_some_iff.mp found)

theorem NodeInfo.yields_read (bound : Nat) : Yields (NodeInfo.read bound) NodeInfo.Kept := by
  refine (yields_object (NodeInfo.yields_member bound) _ bound).map fun ms all => ⟨?_, ?_⟩
  · intro s present
    obtain ⟨m, mem, picked⟩ := exists_of_join present
    cases m with
    | software v =>
      cases picked
      exact all _ mem s rfl
    | _ => cases picked
  · refine keptMembers_ofList fun m mem e picked => ?_
    cases m with
    | extra key v =>
      cases picked
      exact all _ mem
    | _ => cases picked

/-- What is kept of measured values is in the form in which it is kept. -/
def Statistics.Kept (s : Statistics) : Prop :=
  KeptMembers Statistics.keys (Json.nestingLimit - 2) s.extra

/-- A member that measured values can be put together from. -/
def Statistics.Member.Sound : Statistics.Member → Prop
  | .extra key v => key ∉ Statistics.keys ∧ v.Kept (Json.nestingLimit - 2)
  | _ => True

theorem Statistics.yields_member (bound : Nat) (key : String) :
    Yields ((Statistics.shape bound).member key) Statistics.Member.Sound := by
  unfold Statistics.shape
  dsimp only
  split
  case h_7 =>
    rename_i nodeId id uptime idleTime loadAverage clients
    exact (yields_value bound _).map fun v kept =>
      ⟨Statistics.not_mem_keys nodeId id uptime idleTime loadAverage clients, kept⟩
  all_goals exact (yields_any _).map fun _ _ => trivial

theorem Statistics.yields_read (bound : Nat) : Yields (Statistics.read bound) Statistics.Kept := by
  refine (yields_object (Statistics.yields_member bound) _ bound).map fun ms all => ?_
  refine keptMembers_ofList fun m mem e picked => ?_
  cases m with
  | extra key v =>
    cases picked
    exact all _ mem
  | _ => cases picked

/-- What is kept of the section about neighbours is in the form in which it is kept. -/
def Neighbours.Kept (n : Neighbours) : Prop :=
  KeptMembers Neighbours.keys (Json.nestingLimit - 2) n.extra

/-- A member that the section about neighbours can be put together from. -/
def Neighbours.Member.Sound : Neighbours.Member → Prop
  | .nodeId _ => True
  | .extra key v => key ∉ Neighbours.keys ∧ v.Kept (Json.nestingLimit - 2)

theorem Neighbours.yields_member (bound : Nat) (key : String) :
    Yields ((Neighbours.shape bound).member key) Neighbours.Member.Sound := by
  unfold Neighbours.shape
  dsimp only
  split
  · exact (yields_any _).map fun _ _ => trivial
  · exact (yields_any _).map fun _ _ => trivial
  · rename_i nodeId id
    exact (yields_value bound _).map fun v kept => ⟨Neighbours.not_mem_keys nodeId id, kept⟩

theorem Neighbours.yields_read (bound : Nat) : Yields (Neighbours.read bound) Neighbours.Kept := by
  refine (yields_object (Neighbours.yields_member bound) _ bound).map fun ms all => ?_
  refine keptMembers_ofList fun m mem e picked => ?_
  cases m with
  | nodeId id => cases picked
  | extra key v =>
    cases picked
    exact all _ mem

/-! ## Responses -/

/-- What is kept of a response is in the form in which it is kept. -/
structure Response.Kept (r : Response) : Prop where
  nodeInfo : ∀ n, r.nodeInfo = some n → n.Kept
  statistics : ∀ s, r.statistics = some s → s.Kept
  neighbours : ∀ n, r.neighbours = some n → n.Kept

/-- A member that a response can be put together from. -/
def Response.Member.Sound : Response.Member → Prop
  | .nodeInfo v => ∀ n, v = some n → n.Kept
  | .statistics v => ∀ s, v = some s → s.Kept
  | .neighbours v => ∀ n, v = some n → n.Kept
  | .skipped => True

theorem Response.yields_member (bound : Nat) (key : String) :
    Yields ((Response.shape bound).member key) Response.Member.Sound := by
  unfold Response.shape
  dsimp only
  split
  · exact (yields_optional (NodeInfo.yields_read bound)).map fun _ kept => kept
  · exact (yields_optional (Statistics.yields_read bound)).map fun _ kept => kept
  · exact (yields_optional (Neighbours.yields_read bound)).map fun _ kept => kept
  · exact .after _ fun _ => yields_pure trivial

theorem Response.yields_read (bound : Nat) : Yields (Response.read bound) Response.Kept := by
  refine (yields_record (Response.yields_member bound) _ _ bound).map fun ms all => ⟨?_, ?_, ?_⟩
  · intro n present
    obtain ⟨m, mem, picked⟩ := exists_of_join present
    cases m with
    | nodeInfo v =>
      cases picked
      exact all _ mem n rfl
    | _ => cases picked
  · intro s present
    obtain ⟨m, mem, picked⟩ := exists_of_join present
    cases m with
    | statistics v =>
      cases picked
      exact all _ mem s rfl
    | _ => cases picked
  · intro n present
    obtain ⟨m, mem, picked⟩ := exists_of_join present
    cases m with
    | neighbours v =>
      cases picked
      exact all _ mem n rfl
    | _ => cases picked

/-- Whatever the text, what is kept of a response that is read is in the form in which it is kept. -/
theorem Response.kept_of_ofText {text : List UInt8} {r : Response}
    (run : Response.ofText text = .ok r) : r.Kept :=
  (Response.yields_read (text.length + 1)).readWhole run

end MeshTelemetry
