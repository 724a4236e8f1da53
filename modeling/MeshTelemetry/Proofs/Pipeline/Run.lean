import Mathlib.Data.List.Induction
import MeshTelemetry.Proofs.Pipeline.Handling

/-!
# Runs of the pipeline

`handleAll` handles datagrams one after the other, each at a time of its own, and `drainEach` drains a
queue of them batch by batch. But for the notices about ends of queues, both leave behind the same.

The clock reaches nothing but the times of nodes. `handleAll_congr` is the two-run statement: runs
over the same datagrams agree on the sections of the registry, the counters, the notices and the
sections of the nodes that are handed to the sink.
-/

namespace MeshTelemetry

/-- How many datagrams have been counted with an outcome. -/
def Counters.outcomes (c : Counters) : Nat :=
  c.decodeFailures + c.invalidNodeIds + c.nodesUpdated

namespace Pipeline

/-! ## One datagram after the other -/

theorem handleAll_append (hasSink : Bool) (s : State) (xs ys : List (Int × Datagram)) :
    handleAll hasSink s (xs ++ ys) =
      ((handleAll hasSink (handleAll hasSink s xs).1 ys).1,
        (handleAll hasSink s xs).2 ++
          (handleAll hasSink (handleAll hasSink s xs).1 ys).2) := by
  induction xs generalizing s with
  | nil => rfl
  | cons x xs ih =>
    obtain ⟨now, d⟩ := x
    simp only [List.cons_append, handleAll, ih, List.append_assoc]

/-! ## Outcomes -/

/-- Handling a datagram counts exactly one outcome. -/
theorem outcomes_handle (hasSink : Bool) (now : Int) (s : State) (d : Datagram) :
    (handle hasSink now s d).1.counters.outcomes = s.counters.outcomes + 1 := by
  rcases handle_cases hasSink now s d with
    ⟨e, -, -, step⟩ | ⟨r, -, -, step⟩ | ⟨id, r, -, -, step⟩
  · rw [step]
    simp only [State.count, Counters.bump, Counters.outcomes]
    omega
  · rw [step]
    simp only [State.count, Counters.bump, Counters.outcomes]
    omega
  · rw [step]
    simp only [storedState]
    split <;> simp only [Counters.bump, Counters.outcomes] <;> omega

theorem outcomes_handleAll (hasSink : Bool) (s : State) (ds : List (Int × Datagram)) :
    (handleAll hasSink s ds).1.counters.outcomes = s.counters.outcomes + ds.length := by
  induction ds generalizing s with
  | nil => rfl
  | cons x ds ih =>
    obtain ⟨now, d⟩ := x
    simp only [handleAll, ih, outcomes_handle, List.length_cons]
    omega

/-! ## Batches -/

/-- Drain batches one after the other. -/
def drainEach (hasSink : Bool) (s : State) : List (List (Int × Datagram)) → State × List Effect
  | [] => (s, [])
  | batch :: rest =>
    let (next, effects) := drain hasSink s batch
    let (last, more) := drainEach hasSink next rest
    (last, effects ++ more)

theorem fst_drain (hasSink : Bool) (s : State) (queue : List (Int × Datagram)) :
    (drain hasSink s queue).1 = (handleAll hasSink s queue).1 := rfl

theorem snd_drain (hasSink : Bool) (s : State) (queue : List (Int × Datagram)) :
    (drain hasSink s queue).2 = (handleAll hasSink s queue).2 ++ [.notice .queueEnded] := rfl

theorem fst_drainEach (hasSink : Bool) (s : State) (batches : List (List (Int × Datagram))) :
    (drainEach hasSink s batches).1 = (handleAll hasSink s batches.flatten).1 := by
  induction batches generalizing s with
  | nil => rfl
  | cons batch batches ih =>
    rw [List.flatten_cons, handleAll_append]
    exact ih _

/-- What relates the state before and the state behind a run to its datagrams and effects, if it holds
of each datagram by itself and of the end of a queue, and is handed on from one run to the next. -/
theorem drainEach_induction {hasSink : Bool}
    {motive : State → List Datagram → State → List Effect → Prop}
    (nothing : ∀ s, motive s [] s [])
    (ended : ∀ s, motive s [] s [.notice .queueEnded])
    (datagram : ∀ now s d, motive s [d] (handle hasSink now s d).1 (handle hasSink now s d).2)
    (append : ∀ {s t u ds more xs ys}, motive s ds t xs → motive t more u ys →
      motive s (ds ++ more) u (xs ++ ys))
    (s : State) (batches : List (List (Int × Datagram))) :
    motive s (batches.flatten.map (·.2)) (drainEach hasSink s batches).1
      (drainEach hasSink s batches).2 := by
  have all (s : State) (run : List (Int × Datagram)) :
      motive s (run.map (·.2)) (handleAll hasSink s run).1 (handleAll hasSink s run).2 := by
    induction run generalizing s with
    | nil => exact nothing s
    | cons x run ih => exact append (datagram x.1 s x.2) (ih _)
  induction batches generalizing s with
  | nil => exact nothing s
  | cons batch batches ih =>
    have drained := append (all s batch) (ended _)
    rw [List.append_nil] at drained
    rw [List.flatten_cons, List.map_append]
    exact append drained (ih _)

/-- But for the ends of queues, batches leave behind what their datagrams do. -/
theorem filterMap_drainEach {α : Type} {f : Effect → Option α}
    (silent : f (.notice .queueEnded) = none) (hasSink : Bool) (s : State)
    (batches : List (List (Int × Datagram))) :
    (drainEach hasSink s batches).2.filterMap f =
      (handleAll hasSink s batches.flatten).2.filterMap f := by
  induction batches generalizing s with
  | nil => rfl
  | cons batch batches ih =>
    rw [List.flatten_cons, handleAll_append, List.filterMap_append, ← ih]
    simp only [drainEach, snd_drain, fst_drain, List.filterMap_append, List.filterMap_cons, silent,
      List.filterMap_nil, List.append_nil]

/-! ## The steps of a run -/

/-- The state before the datagram at a position of a run. -/
def stateAt (hasSink : Bool) (s : State) (run : List (Int × Datagram)) (i : Nat) : State :=
  (handleAll hasSink s (run.take i)).1

/-- What handling the datagram at a position of a run leaves behind. -/
def effectsAt (hasSink : Bool) (s : State) (run : List (Int × Datagram)) (i : Nat) :
    List Effect :=
  run[i]?.elim [] fun x => (handle hasSink x.1 (stateAt hasSink s run i) x.2).2

theorem stateAt_succ {hasSink : Bool} {s : State} {run : List (Int × Datagram)} {i : Nat}
    {now : Int} {d : Datagram} (here : run[i]? = some (now, d)) :
    stateAt hasSink s run (i + 1) = (handle hasSink now (stateAt hasSink s run i) d).1 := by
  unfold stateAt
  rw [List.take_add_one, here, handleAll_append]
  rfl

/-- A run leaves behind what its steps leave behind, one after the other. -/
theorem snd_handleAll (hasSink : Bool) (s : State) (run : List (Int × Datagram)) :
    (handleAll hasSink s run).2 = (List.range run.length).flatMap (effectsAt hasSink s run) := by
  induction run using List.reverseRecOn with
  | nil => rfl
  | append_singleton run x ih =>
    -- The steps before the last one do not see the datagram that has been added.
    have before : (List.range run.length).flatMap (effectsAt hasSink s (run ++ [x])) =
        (List.range run.length).flatMap (effectsAt hasSink s run) := by
      refine List.flatMap_congr fun i inside => ?_
      have lt : i < run.length := List.mem_range.mp inside
      unfold effectsAt stateAt
      rw [List.getElem?_append_left lt, List.take_append_of_le_length (Nat.le_of_lt lt)]
    have last : effectsAt hasSink s (run ++ [x]) run.length =
        (handleAll hasSink (handleAll hasSink s run).1 [x]).2 := by
      unfold effectsAt stateAt
      simp [handleAll]
    rw [handleAll_append, List.length_append, List.length_singleton, List.range_succ,
      List.flatMap_append, before, ← ih, List.flatMap_singleton, last]

/-! ## What is left without times -/

/-- Two states that differ at most in the times of their nodes. -/
structure SameButTimes (s t : State) : Prop where
  sections : s.registry.sections = t.registry.sections
  counters : s.counters = t.counters

/-- The nodes handed to the sink, without their times. -/
def sinkCalls (effects : List Effect) : List (NodeId × Response) :=
  (writesOf effects).filterMap fun
    | .node id n => some (id, n.sections)
    | _ => none

theorem writesOf_append (xs ys : List Effect) :
    writesOf (xs ++ ys) = writesOf xs ++ writesOf ys :=
  List.filterMap_append

@[simp]
theorem sinkCalls_append (xs ys : List Effect) :
    sinkCalls (xs ++ ys) = sinkCalls xs ++ sinkCalls ys := by
  simp [sinkCalls, writesOf_append]

@[simp]
theorem noticesOf_append (xs ys : List Effect) :
    noticesOf (xs ++ ys) = noticesOf xs ++ noticesOf ys := by
  simp [noticesOf, List.filterMap_append]

@[simp]
theorem sinkCalls_notice (n : Notice) (effects : List Effect) :
    sinkCalls (.notice n :: effects) = sinkCalls effects := rfl

@[simp]
theorem noticesOf_notice (n : Notice) (effects : List Effect) :
    noticesOf (.notice n :: effects) = n :: noticesOf effects := rfl

/-- Two lists of effects that differ at most in the times of nodes. -/
structure SameEffects (xs ys : List Effect) : Prop where
  notices : noticesOf xs = noticesOf ys
  calls : sinkCalls xs = sinkCalls ys

theorem SameEffects.refl (xs : List Effect) : SameEffects xs xs :=
  ⟨rfl, rfl⟩

theorem SameEffects.append {xs ys xs' ys' : List Effect} (first : SameEffects xs ys)
    (second : SameEffects xs' ys') : SameEffects (xs ++ xs') (ys ++ ys') :=
  ⟨by simp [first.notices, second.notices], by simp [first.calls, second.calls]⟩

variable (hasSink : Bool) {s t : State}

/-- What storing a response hands to the sink. -/
theorem sinkCalls_storedEffects (now : Int) (source : SocketAddress) (id : NodeId) (r : Response) :
    sinkCalls (storedEffects hasSink now s source id r) =
      if hasSink && (mergedNode s id r now).hasStatistics then
        [(id, (mergedNode s id r now).sections)] else [] := by
  unfold storedEffects forward
  dsimp only
  cases hasSink && (mergedNode s id r now).hasStatistics <;>
    cases (s.registry.find? id).isNone <;> rfl

/-- The notices about a stored response. -/
theorem noticesOf_storedEffects (now : Int) (source : SocketAddress) (id : NodeId) (r : Response) :
    noticesOf (storedEffects hasSink now s source id r) =
      (if (s.registry.sectionsAt id).isNone then [.newNode id] else []) ++
        [.nodeUpdated id source (hasSink && (mergedNode s id r now).hasStatistics)] := by
  have known : (s.registry.sectionsAt id).isNone = (s.registry.find? id).isNone :=
    Option.isNone_map
  unfold storedEffects forward
  dsimp only
  rw [known]
  cases hasSink && (mergedNode s id r now).hasStatistics <;>
    cases (s.registry.find? id).isNone <;> rfl

theorem SameButTimes.store (same : SameButTimes s t) (now later : Int) (source : SocketAddress)
    (id : NodeId) (r : Response) :
    SameButTimes (storedState hasSink now s id r) (storedState hasSink later t id r) ∧
      SameEffects (storedEffects hasSink now s source id r)
        (storedEffects hasSink later t source id r) := by
  obtain ⟨registries, merged⟩ :=
    Registry.sections_update_congr same.sections id r now later
  have stored : (mergedNode s id r now).sections = (mergedNode t id r later).sections := merged
  have statistics : (mergedNode s id r now).hasStatistics =
      (mergedNode t id r later).hasStatistics :=
    congrArg (fun x : Response => x.statistics.isSome) stored
  have known : s.registry.sectionsAt id = t.registry.sectionsAt id := by
    rw [Registry.sectionsAt_eq_lookup, Registry.sectionsAt_eq_lookup, same.sections]
  refine ⟨⟨registries, ?_⟩, ⟨?_, ?_⟩⟩
  · simp only [storedState, statistics, same.counters]
  · rw [noticesOf_storedEffects, noticesOf_storedEffects, statistics, known]
  · rw [sinkCalls_storedEffects, sinkCalls_storedEffects, statistics, stored]

/-- One step of two runs that are alike but for times leaves them alike. -/
theorem handle_congr (same : SameButTimes s t) (now later : Int) (d : Datagram) :
    SameButTimes (handle hasSink now s d).1 (handle hasSink later t d).1 ∧
      SameEffects (handle hasSink now s d).2 (handle hasSink later t d).2 := by
  rcases handle_cases hasSink now s d with
    ⟨e, failed, -, step⟩ | ⟨r, decoded, refused, step⟩ | ⟨id, r, -, stored, step⟩
  · rw [step, handle_of_undecodable failed]
    exact ⟨⟨same.sections, by simp only [State.count, same.counters]⟩, .refl _⟩
  · rw [step, handle_of_refused decoded refused]
    exact ⟨⟨same.sections, by simp only [State.count, same.counters]⟩, .refl _⟩
  · rw [step, handle_of_stored stored]
    obtain ⟨states, effects⟩ := same.store hasSink now later d.source id r
    exact ⟨states, SameEffects.append (.refl [.notice (.decoded d.source)]) effects⟩

/-- Runs over the same datagrams are alike but for times. -/
theorem handleAll_congr {xs ys : List (Int × Datagram)} (same : SameButTimes s t)
    (datagrams : xs.map (·.2) = ys.map (·.2)) :
    SameButTimes (handleAll hasSink s xs).1 (handleAll hasSink t ys).1 ∧
      SameEffects (handleAll hasSink s xs).2 (handleAll hasSink t ys).2 := by
  induction xs generalizing s t ys with
  | nil =>
    cases List.map_eq_nil_iff.mp datagrams.symm
    exact ⟨same, .refl _⟩
  | cons x xs ih =>
    obtain ⟨now, d⟩ := x
    cases ys with
    | nil => cases datagrams
    | cons y ys =>
      obtain ⟨later, other⟩ := y
      simp only [List.map_cons, List.cons.injEq] at datagrams
      obtain ⟨rfl, rest⟩ := datagrams
      obtain ⟨states, effects⟩ := handle_congr hasSink same now later d
      obtain ⟨lastStates, more⟩ := ih states rest
      exact ⟨lastStates, effects.append more⟩

end Pipeline

end MeshTelemetry
