import Mathlib.Data.Set.Card
import MeshTelemetry.Proofs.Pipeline.Run

/-!
# The last writer wins

After a run from the empty registry, the entry under an identifier holds of each section the one
that was carried by the last response for this identifier that carries the section at all. There is
an entry exactly for the identifiers of twelve bytes that some response names.

`Response.latest` says "the last one that carries it" without the registry, as the last element of a
filtered list. `sectionsAt_handleAll` is the run lemma: a look-up after a run folds the responses
for its identifier, and no other datagram matters.
-/

namespace MeshTelemetry

/-! ## The last one that carries a section -/

/-- The part carried by the last of some responses that carries it. -/
def lastCarried {α : Type} (part : Response → Option α) (rs : List Response) : Option α :=
  (rs.filterMap part).getLast?

/-- Of each section the last one carried by some responses. -/
def Response.latest (rs : List Response) : Response :=
  ⟨lastCarried (·.nodeInfo) rs, lastCarried (·.statistics) rs, lastCarried (·.neighbours) rs⟩

/-- The sections stored after a response, from those stored before it, if there were any. -/
def Response.absorb (older : Option Response) (r : Response) : Option Response :=
  some (r.over (older.getD .blank))

theorem lastCarried_cons {α : Type} (part : Response → Option α) (r : Response)
    (rs : List Response) : lastCarried part (r :: rs) = (lastCarried part rs).or (part r) := by
  unfold lastCarried
  cases carried : part r with
  | none => simp [carried]
  | some x =>
    rw [List.filterMap_cons_some carried, List.getLast?_cons]
    cases (rs.filterMap part).getLast? <;> rfl

theorem Response.latest_cons (r : Response) (rs : List Response) :
    Response.latest (r :: rs) = (Response.latest rs).over r := by
  simp only [Response.latest, Response.over, lastCarried_cons]

theorem Response.over_assoc (a b c : Response) : (a.over b).over c = a.over (b.over c) := by
  simp only [Response.over, Option.or_assoc]

theorem Response.over_blank (r : Response) : r.over .blank = r := by
  simp only [Response.over, Response.blank, Option.or_none]

theorem Response.foldl_absorb_some (older : Response) (rs : List Response) :
    rs.foldl Response.absorb (some older) = some ((Response.latest rs).over older) := by
  induction rs generalizing older with
  | nil => rfl
  | cons r rs ih =>
    rw [List.foldl_cons, Response.absorb, ih, Response.latest_cons, Response.over_assoc]
    rfl

theorem Response.foldl_absorb_none (rs : List Response) :
    rs.foldl Response.absorb none = if rs = [] then none else some (Response.latest rs) := by
  cases rs with
  | nil => rfl
  | cons r rs =>
    rw [if_neg (List.cons_ne_nil r rs), List.foldl_cons, Response.absorb,
      Response.foldl_absorb_some, Response.latest_cons, Option.getD_none, Response.over_blank]

/-! ## The responses for an identifier -/

/-- The response of a datagram, if it names the given identifier. -/
def Datagram.responseFor (id : NodeId) (d : Datagram) : Option Response :=
  d.decode.toOption.filter fun r => r.named? = some id.text

/-- The responses for an identifier among some datagrams, in their order. -/
def responsesFor (id : NodeId) (ds : List Datagram) : List Response :=
  ds.filterMap (Datagram.responseFor id)

theorem Datagram.responseFor_eq_some_iff {id : NodeId} {d : Datagram} {r : Response} :
    d.responseFor id = some r ↔ d.stored? = some (id, r) := by
  rw [Datagram.stored?_eq_some_iff, Datagram.responseFor]
  cases d.decode with
  | error e => simp [Except.toOption]
  | ok found =>
    simp only [Except.toOption, Option.filter_eq_some_iff, Option.some.injEq, Except.ok.injEq,
      decide_eq_true_eq]

theorem Datagram.responseFor_eq_none {id : NodeId} {d : Datagram} (unstored : d.stored? = none) :
    d.responseFor id = none := by
  rw [Option.eq_none_iff_forall_ne_some]
  intro r found
  rw [Datagram.responseFor_eq_some_iff, unstored] at found
  cases found

theorem Datagram.responseFor_of_ne {id other : NodeId} {d : Datagram} {r : Response}
    (stored : d.stored? = some (id, r)) (ne : other ≠ id) : d.responseFor other = none := by
  rw [Option.eq_none_iff_forall_ne_some]
  intro found h
  rw [Datagram.responseFor_eq_some_iff, stored] at h
  cases h
  exact ne rfl

/-- A datagram whose response names a text as the identifier of its node. -/
def Datagram.Names (d : Datagram) (raw : String) : Prop :=
  ∃ r, d.decode = .ok r ∧ r.named? = some raw

theorem responsesFor_cons (id : NodeId) (d : Datagram) (ds : List Datagram) :
    responsesFor id (d :: ds) = (d.responseFor id).toList ++ responsesFor id ds := by
  unfold responsesFor
  cases h : d.responseFor id <;> simp [h]

theorem responsesFor_ne_nil_iff {id : NodeId} {ds : List Datagram} :
    responsesFor id ds ≠ [] ↔ ∃ d ∈ ds, d.Names id.text := by
  simp only [responsesFor, ne_eq, List.filterMap_eq_nil_iff, not_forall]
  constructor
  · rintro ⟨d, inside, found⟩
    obtain ⟨r, hr⟩ := Option.ne_none_iff_exists'.mp found
    rw [Datagram.responseFor_eq_some_iff, Datagram.stored?_eq_some_iff] at hr
    exact ⟨d, inside, r, hr⟩
  · rintro ⟨d, inside, r, named⟩
    refine ⟨d, inside, ?_⟩
    rw [Datagram.responseFor_eq_some_iff.mpr (Datagram.stored?_eq_some_iff.mpr named)]
    exact Option.some_ne_none r

namespace Pipeline

variable (hasSink : Bool)

/-! ## One step and a whole run -/

/-- Handling a datagram changes the entry under the identifier that it names and no other. -/
theorem sectionsAt_handle (now : Int) (s : State) (d : Datagram) (id : NodeId) :
    (handle hasSink now s d).1.registry.sectionsAt id =
      (d.responseFor id).toList.foldl Response.absorb (s.registry.sectionsAt id) := by
  rcases handle_cases hasSink now s d with
    ⟨e, -, unstored, step⟩ | ⟨r, -, unstored, step⟩ | ⟨key, r, -, stored, step⟩
  · rw [step, Datagram.responseFor_eq_none unstored]
    rfl
  · rw [step, Datagram.responseFor_eq_none unstored]
    rfl
  · rw [step]
    change (s.registry.update key r now).1.sectionsAt id = _
    rw [Registry.sectionsAt_update]
    split
    · rename_i eq
      subst eq
      rw [Datagram.responseFor_eq_some_iff.mpr stored]
      rfl
    · rename_i ne
      rw [Datagram.responseFor_of_ne stored ne]
      rfl

/-- A look-up after a run sees the responses for its identifier, in their order. -/
theorem sectionsAt_handleAll (s : State) (run : List (Int × Datagram)) (id : NodeId) :
    (handleAll hasSink s run).1.registry.sectionsAt id =
      (responsesFor id (run.map (·.2))).foldl Response.absorb (s.registry.sectionsAt id) := by
  induction run generalizing s with
  | nil => rfl
  | cons x run ih =>
    obtain ⟨now, d⟩ := x
    rw [List.map_cons, responsesFor_cons, List.foldl_append, ← sectionsAt_handle hasSink now s d id, ← ih]
    rfl

theorem nodup_ids_handle {s : State} (fresh : s.registry.ids.Nodup) (now : Int) (d : Datagram) :
    (handle hasSink now s d).1.registry.ids.Nodup := by
  rcases handle_cases hasSink now s d with
    ⟨e, -, -, step⟩ | ⟨r, -, -, step⟩ | ⟨key, r, -, -, step⟩
  · rw [step]
    exact fresh
  · rw [step]
    exact fresh
  · rw [step]
    exact Registry.nodup_ids_put fresh key _

theorem nodup_ids_handleAll {s : State} (fresh : s.registry.ids.Nodup)
    (run : List (Int × Datagram)) : (handleAll hasSink s run).1.registry.ids.Nodup := by
  induction run generalizing s with
  | nil => exact fresh
  | cons x run ih => exact ih (nodup_ids_handle hasSink fresh x.1 x.2)

/-- The identifiers known after a run from the empty registry are those that some datagram
names. -/
theorem mem_ids_handleAll {run : List (Int × Datagram)} {id : NodeId} :
    id ∈ (handleAll hasSink .initial run).1.registry.ids ↔
      ∃ d ∈ run.map (·.2), d.Names id.text := by
  rw [← responsesFor_ne_nil_iff, Registry.mem_ids_iff, ← Option.isSome_iff_exists]
  have looked := sectionsAt_handleAll hasSink .initial run id
  change Option.map _ _ = List.foldl _ none _ at looked
  rw [Response.foldl_absorb_none] at looked
  rw [← Option.isSome_map (f := Node.sections), looked]
  split <;> simp_all

/-! ## The notices about reading -/

/-- Whether a notice tells what became of the payload of a datagram. -/
def Notice.isReading : Notice → Bool
  | .decoded _ => true
  | .undecodable _ _ => true
  | _ => false

/-- The notice about the payload of a datagram. -/
def reading (d : Datagram) : Notice :=
  match d.decode with
  | .ok _ => .decoded d.source
  | .error e => .undecodable d e.fault

/-- The notices about payloads among some effects, in their order. -/
def readingsOf (effects : List Effect) : List Notice :=
  (noticesOf effects).filter Notice.isReading

@[simp]
theorem readingsOf_append (xs ys : List Effect) :
    readingsOf (xs ++ ys) = readingsOf xs ++ readingsOf ys := by
  simp [readingsOf]

theorem readingsOf_notice (n : Notice) (effects : List Effect) :
    readingsOf (.notice n :: effects) =
      (if n.isReading then [n] else []) ++ readingsOf effects := by
  rw [readingsOf, noticesOf_notice, List.filter_cons]
  split <;> rfl

theorem readingsOf_storedEffects (now : Int) (s : State) (source : SocketAddress) (id : NodeId)
    (r : Response) : readingsOf (storedEffects hasSink now s source id r) = [] := by
  rw [readingsOf, noticesOf_storedEffects]
  split <;> rfl

/-- A datagram is read once. -/
theorem readingsOf_handle (now : Int) (s : State) (d : Datagram) :
    readingsOf (handle hasSink now s d).2 = [reading d] := by
  rcases handle_cases hasSink now s d with
    ⟨e, decoded, -, step⟩ | ⟨r, decoded, -, step⟩ | ⟨id, r, decoded, -, step⟩
  · rw [step, reading, decoded]
    rfl
  · have silent : (r.refusal d.source).isReading = false := by
      unfold Response.refusal
      split <;> rfl
    rw [step, reading, decoded, readingsOf_notice, readingsOf_notice, silent]
    rfl
  · rw [step, reading, decoded, readingsOf_notice, readingsOf_storedEffects]
    rfl

theorem readingsOf_handleAll (s : State) (run : List (Int × Datagram)) :
    readingsOf (handleAll hasSink s run).2 = (run.map (·.2)).map reading := by
  induction run generalizing s with
  | nil => rfl
  | cons x run ih =>
    simp only [handleAll, readingsOf_append, readingsOf_handle, ih, List.map_cons]
    rfl

theorem readingsOf_drainEach (s : State) (batches : List (List (Int × Datagram))) :
    readingsOf (drainEach hasSink s batches).2 = (batches.flatten.map (·.2)).map reading := by
  induction batches generalizing s with
  | nil => rfl
  | cons batch batches ih =>
    have first : readingsOf (drain hasSink s batch).2 = (batch.map (·.2)).map reading := by
      rw [snd_drain, readingsOf_append, readingsOf_handleAll]
      exact List.append_nil _
    simp only [drainEach, readingsOf_append, first, ih, List.flatten_cons, List.map_append]

/-! ## Drained batches -/

section

variable (batches : List (List (Int × Datagram)))

/-- The identifiers known after draining batches are those that some datagram names. -/
theorem mem_ids_drainEach (id : NodeId) :
    id ∈ (drainEach hasSink .initial batches).1.registry.ids ↔
      ∃ d ∈ batches.flatten.map (·.2), d.Names id.text := by
  rw [fst_drainEach, mem_ids_handleAll]

theorem nodup_ids_drainEach : (drainEach hasSink .initial batches).1.registry.ids.Nodup := by
  rw [fst_drainEach]
  exact nodup_ids_handleAll hasSink (s := .initial) List.nodup_nil _

/-- There is an entry for a text exactly if it has twelve bytes and some datagram names it. -/
theorem exists_find?_drainEach (raw : String) :
    (∃ id n, (drainEach hasSink .initial batches).1.registry.find? id = some n ∧ id.text = raw) ↔
      Text.byteLength raw = nodeIdLength ∧ ∃ d ∈ batches.flatten.map (·.2), d.Names raw := by
  constructor
  · rintro ⟨id, n, found, rfl⟩
    have known := Registry.mem_ids_iff.mpr ⟨n, found⟩
    exact ⟨id.length_eq, (mem_ids_drainEach hasSink batches id).mp known⟩
  · rintro ⟨valid, named⟩
    have known := (mem_ids_drainEach hasSink batches ⟨raw, valid⟩).mpr named
    rcases Registry.mem_ids_iff.mp known with ⟨n, found⟩
    exact ⟨⟨raw, valid⟩, n, found, rfl⟩

/-- An entry holds of each section the last one carried for it. -/
theorem sections_find?_drainEach (id : NodeId) :
    ((drainEach hasSink .initial batches).1.registry.find? id).map
        (fun n => (n.nodeInfo, n.statistics, n.neighbours)) =
      if (responsesFor id (batches.flatten.map (·.2))).isEmpty then none
      else some (lastCarried (·.nodeInfo) (responsesFor id (batches.flatten.map (·.2))),
        lastCarried (·.statistics) (responsesFor id (batches.flatten.map (·.2))),
        lastCarried (·.neighbours) (responsesFor id (batches.flatten.map (·.2)))) := by
  have looked := sectionsAt_handleAll hasSink .initial batches.flatten id
  rw [← fst_drainEach] at looked
  change Option.map _ (Registry.find? _ id) = List.foldl _ none _ at looked
  rw [Response.foldl_absorb_none] at looked
  have parts := congrArg (Option.map fun r : Response =>
    (r.nodeInfo, r.statistics, r.neighbours)) looked
  rw [Option.map_map] at parts
  refine parts.trans ?_
  cases responsesFor id (batches.flatten.map (·.2)) <;> rfl

/-- There are as many entries as texts of twelve bytes that some datagram names. -/
theorem size_drainEach :
    (drainEach hasSink .initial batches).1.registry.size =
      {raw | Text.byteLength raw = nodeIdLength ∧
        ∃ d ∈ batches.flatten.map (·.2), d.Names raw}.ncard := by
  -- The texts of the entries list the set, and they list it without repetition.
  have texts :
      ((drainEach hasSink .initial batches).1.registry.ids.map NodeId.text).Nodup := by
    refine (nodup_ids_drainEach hasSink batches).map ?_
    rintro ⟨a, _⟩ ⟨b, _⟩ same
    cases same
    rfl
  have listed :
      {raw | Text.byteLength raw = nodeIdLength ∧ ∃ d ∈ batches.flatten.map (·.2), d.Names raw} =
        (((drainEach hasSink .initial batches).1.registry.ids.map NodeId.text).toFinset :
          Set String) := by
    ext raw
    rw [Set.mem_ofPred_eq, ← exists_find?_drainEach hasSink batches]
    simp only [List.coe_toFinset, Set.mem_ofPred_eq, List.mem_map, Registry.mem_ids_iff]
    constructor
    · rintro ⟨id, n, found, text⟩
      exact ⟨id, ⟨n, found⟩, text⟩
    · rintro ⟨id, ⟨n, found⟩, text⟩
      exact ⟨id, n, found, text⟩
  rw [listed, Set.ncard_coe_finset, List.toFinset_card_of_nodup texts]
  simp [Registry.size, Registry.ids]

/-- How datagrams are split into batches, and when these are drained, leaves no trace in sections and
counters. -/
theorem same_drainEach_drain {queue : List (Int × Datagram)}
    (same : queue.map (·.2) = batches.flatten.map (·.2)) :
    SameButTimes (drainEach hasSink .initial batches).1 (drain hasSink .initial queue).1 := by
  have alike := (handleAll_congr hasSink (s := .initial) (t := .initial) ⟨rfl, rfl⟩ same.symm).1
  rwa [← fst_drainEach, ← fst_drain] at alike

end

/-- After draining batches over an empty registry, there is an entry for a text exactly if it has
twelve bytes and some datagram names it, and the entry holds of each section the last one carried
by a datagram that names it. There is one entry for each such text, each datagram is read once, in
order, and the registry and the counters are those of a single drain, whatever the times. -/
theorem drainEach_lastWriter (hasSink : Bool) (batches : List (List (Int × Datagram))) :
    let datagrams := batches.flatten.map (·.2)
    let run := drainEach hasSink .initial batches
    let registry := run.1.registry
    (∀ raw : String, (∃ id n, registry.find? id = some n ∧ id.text = raw) ↔
      Text.byteLength raw = nodeIdLength ∧ ∃ d ∈ datagrams, d.Names raw) ∧
    (∀ id, (registry.find? id).map (fun n => (n.nodeInfo, n.statistics, n.neighbours)) =
      if (responsesFor id datagrams).isEmpty then none
      else some (lastCarried (·.nodeInfo) (responsesFor id datagrams),
        lastCarried (·.statistics) (responsesFor id datagrams),
        lastCarried (·.neighbours) (responsesFor id datagrams))) ∧
    registry.ids.Nodup ∧
    registry.size =
      {raw | Text.byteLength raw = nodeIdLength ∧ ∃ d ∈ datagrams, d.Names raw}.ncard ∧
    readingsOf run.2 = datagrams.map reading ∧
    (∀ queue : List (Int × Datagram), queue.map (·.2) = datagrams →
      registry.sections = (drain hasSink .initial queue).1.registry.sections ∧
      run.1.counters = (drain hasSink .initial queue).1.counters) := by
  intro datagrams run registry
  refine ⟨exists_find?_drainEach hasSink batches, sections_find?_drainEach hasSink batches,
    nodup_ids_drainEach hasSink batches, size_drainEach hasSink batches,
    readingsOf_drainEach hasSink .initial batches, ?_⟩
  intro queue same
  have alike := same_drainEach_drain hasSink batches same
  exact ⟨alike.sections, alike.counters⟩

end Pipeline

end MeshTelemetry
