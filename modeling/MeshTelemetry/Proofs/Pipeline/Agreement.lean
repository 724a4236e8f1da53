import MeshTelemetry.Daemon
import MeshTelemetry.Proofs.Pipeline.Forwarding

/-!
# Counters, log and registry agree

Four observers of the pipeline are written to in different places: the counters, the log, the registry
and the sink. `Agree` says what they have to do with one another over a run, and what with the datagrams
of the run. It holds of each datagram (`agree_handle`) and is handed on from one run to the next, so it
holds of all runs; `drainEach_agrees` draws the conclusions for runs that begin with an empty registry.
-/

namespace MeshTelemetry

/-- The entries of a log with a level and a message. -/
def Event.saying (level : Level) (message : String) (log : List Event) : List Event :=
  log.filter fun e => e.level = level && e.message = message

/-- The text of a field. -/
def Event.field? (name : String) (e : Event) : Option String :=
  e.fields.lookup name

/-- The bytes that a log entry shows in hexadecimal digits. -/
def Event.raw? (e : Event) : Option (List UInt8) :=
  (e.field? "raw").bind fun text => Text.Hex.decode? text.toList

theorem Event.saying_append (level : Level) (message : String) (xs ys : List Event) :
    Event.saying level message (xs ++ ys) =
      Event.saying level message xs ++ Event.saying level message ys :=
  List.filter_append ..

/-- All entries of a log have this level and this message. -/
def Event.AllSay (level : Level) (message : String) (log : List Event) : Prop :=
  ∀ e ∈ log, e.level = level ∧ e.message = message

theorem Event.AllSay.saying_self {level : Level} {message : String} {log : List Event}
    (all : Event.AllSay level message log) : Event.saying level message log = log := by
  refine List.filter_eq_self.mpr fun e mem => ?_
  simp [all e mem]

theorem Event.AllSay.saying_other {level wanted : Level} {message other : String}
    {log : List Event} (all : Event.AllSay level message log) (ne : message ≠ other) :
    Event.saying wanted other log = [] := by
  refine List.filter_eq_nil_iff.mpr fun e mem => ?_
  simp [(all e mem).2, ne]

/-- A datagram holds no response. -/
def Datagram.undecodable (d : Datagram) : Bool :=
  match d.decode with
  | .error _ => true
  | .ok _ => false

namespace Pipeline

/-! ## The log -/

/-- The log entry of an effect. A call of the sink leaves one if the sink writes to the log. -/
def Effect.event? (logs : Bool) : Effect → Option Event
  | .notice n => some n.event
  | .write w => if logs then w.logged else none

/-- The log entries of some effects. -/
def logOf (logs : Bool) (effects : List Effect) : List Event :=
  effects.filterMap (Effect.event? logs)

/-- With the log as its sink, this is what the program logs. -/
theorem logOf_true (effects : List Effect) :
    logOf true effects =
      (effects.map fun e => Collector.Effect.ofIntake (.pipeline e)).flatMap Daemon.events := by
  rw [logOf, List.filterMap_eq_flatMap_toList, List.flatMap_map]
  refine List.flatMap_congr fun e _ => ?_
  cases e <;> rfl

theorem logOf_append (logs : Bool) (xs ys : List Effect) :
    logOf logs (xs ++ ys) = logOf logs xs ++ logOf logs ys :=
  List.filterMap_append

/-- Entries about datagrams without a response. -/
def undecodables (log : List Event) : List Event :=
  Event.saying .warn "unable to decode response" log

/-- Entries about responses that name no valid node, in both forms. -/
def refusals (log : List Event) : List Event :=
  Event.saying .warn "invalid node id" log ++
    Event.saying .warn "invalid node id: response has no known section" log

/-- Entries about nodes seen for the first time. -/
def arrivals (log : List Event) : List Event :=
  Event.saying .debug "new node" log

/-- Entries about merged nodes. -/
def updates (log : List Event) : List Event :=
  Event.saying .debug "node updated" log

/-- Entries of the sink about merged nodes. -/
def points (log : List Event) : List Event :=
  Event.saying .info "node point" log

/-- The identifiers that some entries name. -/
def namesIn (log : List Event) : List (Option String) :=
  log.map (·.field? "node_id")

/-- The identifiers of known nodes, as entries name them. -/
def namesOf (s : State) : List (Option String) :=
  s.registry.ids.map fun id => some id.text

@[simp]
theorem undecodables_append (xs ys : List Event) :
    undecodables (xs ++ ys) = undecodables xs ++ undecodables ys :=
  Event.saying_append ..

@[simp]
theorem arrivals_append (xs ys : List Event) : arrivals (xs ++ ys) = arrivals xs ++ arrivals ys :=
  Event.saying_append ..

@[simp]
theorem updates_append (xs ys : List Event) : updates (xs ++ ys) = updates xs ++ updates ys :=
  Event.saying_append ..

@[simp]
theorem points_append (xs ys : List Event) : points (xs ++ ys) = points xs ++ points ys :=
  Event.saying_append ..

theorem length_refusals_append (xs ys : List Event) :
    (refusals (xs ++ ys)).length = (refusals xs).length + (refusals ys).length := by
  simp only [refusals, Event.saying_append, List.length_append]
  omega

@[simp]
theorem namesIn_append (xs ys : List Event) : namesIn (xs ++ ys) = namesIn xs ++ namesIn ys :=
  List.map_append

/-- Up to any entry, every update is about a node that was known or has been reported as new. -/
def Announced (known : List (Option String)) (log : List Event) : Prop :=
  ∀ k, namesIn (updates (log.take k)) ⊆ known ++ namesIn (arrivals (log.take k))

theorem Announced.append {known : List (Option String)} {xs ys : List Event}
    (first : Announced known xs) (second : Announced (known ++ namesIn (arrivals xs)) ys) :
    Announced known (xs ++ ys) := by
  intro k
  rcases Nat.le_total k xs.length with within | beyond
  · rw [List.take_append_of_le_length within]
    exact first k
  · have whole := first xs.length
    rw [List.take_length] at whole
    rw [List.take_append, List.take_of_length_le beyond, updates_append, namesIn_append,
      arrivals_append, namesIn_append, ← List.append_assoc]
    refine List.append_subset.mpr ⟨?_, second _⟩
    exact List.subset_append_of_subset_left _ whole

theorem announced_of_silent (known : List (Option String)) {log : List Event}
    (silent : updates log = []) : Announced known log := by
  intro k
  have quiet : updates (log.take k) = [] :=
    List.sublist_nil.mp (silent ▸ (log.take_sublist k).filter _)
  rw [quiet]
  exact List.nil_subset _

/-- An update at the end of other entries is announced if its node is known by then. -/
theorem Announced.concat {known : List (Option String)} {log : List Event} {e : Event}
    (silent : updates log = []) (named : e.field? "node_id" ∈ known ++ namesIn (arrivals log)) :
    Announced known (log ++ [e]) := by
  refine (announced_of_silent known silent).append fun k => ?_
  have one : namesIn (updates ([e].take k)) ⊆ [e.field? "node_id"] :=
    ((List.filter_sublist.trans ([e].take_sublist k)).map _).subset
  intro name mem
  rw [List.mem_singleton.mp (one mem)]
  exact List.mem_append_left _ named

/-! ## One datagram -/

theorem isSome_logged_node (id : NodeId) (n : Node) :
    (Write.node id n).logged.isSome = n.hasStatistics := by
  rw [Write.logged, Option.isSome_map]
  rfl

theorem saying_of_logged_node {id : NodeId} {n : Node} {e : Event}
    (logged : (Write.node id n).logged = some e) : e.level = .info ∧ e.message = "node point" := by
  obtain ⟨measured, -, rfl⟩ := Option.map_eq_some_iff.mp logged
  exact ⟨rfl, rfl⟩

/-- A call of the sink leaves an entry if the sink writes to the log. -/
theorem logOf_forward (logs hasSink : Bool) (id : NodeId) (n : Node) :
    logOf logs ((forward hasSink id n).map .write) =
      if logs && (hasSink && n.hasStatistics) then (Write.node id n).logged.toList else [] := by
  unfold forward
  cases hasSink && n.hasStatistics with
  | false => rw [Bool.and_false]; rfl
  | true =>
    cases logs with
    | false => rfl
    | true =>
      change List.filterMap _ [Effect.write (.node id n)] = (Write.node id n).logged.toList
      rw [List.filterMap_eq_flatMap_toList, List.flatMap_singleton]
      rfl

/-- A node that is not known yet is reported. -/
theorem logOf_newNode (logs : Bool) (r : Registry) (id : NodeId) :
    logOf logs (if (r.find? id).isNone then [.notice (.newNode id)] else []) =
      if id ∈ r.ids then [] else [(Notice.newNode id).event] := by
  by_cases known : id ∈ r.ids
  · obtain ⟨n, found⟩ := Registry.mem_ids_iff.mp known
    rw [found, if_pos known]
    rfl
  · have absent : r.find? id = none :=
      Option.eq_none_iff_forall_ne_some.mpr fun n found => known (Registry.mem_ids_iff.mpr ⟨n, found⟩)
    rw [absent, if_neg known]
    rfl

/-- How a stored response appears in the log: an update, and before it at most a new node and a point
of the sink. -/
theorem logOf_stored (logs hasSink : Bool) (now : Int) (s : State) (source : SocketAddress)
    (id : NodeId) (r : Response) :
    let forwarded := hasSink && (mergedNode s id r now).hasStatistics
    ∃ before : List Event,
      logOf logs (.notice (.decoded source) :: storedEffects hasSink now s source id r) =
        before ++ [(Notice.nodeUpdated id source forwarded).event] ∧
      undecodables before = [] ∧ refusals before = [] ∧ updates before = [] ∧
      (points before).length = (if logs && forwarded then 1 else 0) ∧
      namesIn (arrivals before) = if id ∈ s.registry.ids then [] else [some id.text] := by
  intro forwarded
  let new : List Event := if id ∈ s.registry.ids then [] else [(Notice.newNode id).event]
  let written : List Event :=
    if logs && forwarded then (Write.node id (mergedNode s id r now)).logged.toList else []
  have newSays : Event.AllSay .debug "new node" new := by
    intro e mem
    simp only [new] at mem
    split at mem
    · cases mem
    · cases List.mem_singleton.mp mem
      exact ⟨rfl, rfl⟩
  have writtenSays : Event.AllSay .info "node point" written := by
    intro e mem
    simp only [written] at mem
    split at mem
    · exact saying_of_logged_node (Option.mem_toList.mp mem)
    · cases mem
  have length_written : written.length = if logs && forwarded then 1 else 0 := by
    simp only [written]
    split
    · rename_i flag
      have has : (mergedNode s id r now).hasStatistics = true :=
        (Bool.and_eq_true_iff.mp (Bool.and_eq_true_iff.mp flag).2).2
      rw [Option.length_toList, isSome_logged_node, if_pos has]
    · rfl
  have readSays : Event.AllSay .trace "decoded response" [(Notice.decoded source).event] := by
    intro e mem
    cases List.mem_singleton.mp mem
    exact ⟨rfl, rfl⟩
  -- Entries with another message than these three do not stand before the update.
  have quiet {level : Level} {message : String} (read : "decoded response" ≠ message)
      (first : "new node" ≠ message) (point : "node point" ≠ message) :
      Event.saying level message ([(Notice.decoded source).event] ++ new ++ written) = [] := by
    rw [Event.saying_append, Event.saying_append, readSays.saying_other read,
      newSays.saying_other first, writtenSays.saying_other point]
    rfl
  refine ⟨[(Notice.decoded source).event] ++ new ++ written, ?_, ?_, ?_, ?_, ?_, ?_⟩
  · have entries : logOf logs (storedEffects hasSink now s source id r) =
        new ++ written ++ [(Notice.nodeUpdated id source forwarded).event] := by
      unfold storedEffects
      rw [logOf_append, logOf_append, logOf_newNode, logOf_forward]
      rfl
    change (Notice.decoded source).event :: logOf logs _ = _
    rw [entries]
    rfl
  · exact quiet (by decide) (by decide) (by decide)
  · rw [refusals, quiet (by decide) (by decide) (by decide),
      quiet (by decide) (by decide) (by decide)]
    rfl
  · exact quiet (by decide) (by decide) (by decide)
  · have only : points ([(Notice.decoded source).event] ++ new ++ written) = written := by
      rw [points_append, points_append, points, points, points, writtenSays.saying_self,
        readSays.saying_other (by decide), newSays.saying_other (by decide)]
      rfl
    rw [only]
    exact length_written
  · have only : arrivals ([(Notice.decoded source).event] ++ new ++ written) = new := by
      rw [arrivals_append, arrivals_append, arrivals, arrivals, arrivals, newSays.saying_self,
        readSays.saying_other (by decide), writtenSays.saying_other (by decide), List.append_nil]
      rfl
    rw [only]
    simp only [new]
    split <;> rfl

/-! ## Agreement -/

/-- What a run from one state to another has to do with its datagrams and with the log. -/
structure Agree (logs : Bool) (s : State) (ds : List Datagram) (t : State)
    (effects : List Effect) : Prop where
  raws : (undecodables (logOf logs effects)).map Event.raw? =
    (ds.filter Datagram.undecodable).map fun d => some d.payload
  decodeFailures : t.counters.decodeFailures =
    s.counters.decodeFailures + (undecodables (logOf logs effects)).length
  invalidNodeIds : t.counters.invalidNodeIds =
    s.counters.invalidNodeIds + (refusals (logOf logs effects)).length
  nodesUpdated : t.counters.nodesUpdated =
    s.counters.nodesUpdated + (updates (logOf logs effects)).length
  sinkForwards : t.counters.sinkForwards = s.counters.sinkForwards +
    ((updates (logOf logs effects)).filter fun e => e.field? "forwarded" = some "true").length
  pointed : t.counters.sinkForwards =
    s.counters.sinkForwards + (points (logOf true effects)).length
  updated : namesIn (updates (logOf logs effects)) = (storedIds ds).map fun id => some id.text
  arrived : namesOf t = namesOf s ++ namesIn (arrivals (logOf logs effects))
  announced : Announced (namesOf s) (logOf logs effects)

theorem Agree.append {logs : Bool} {s t u : State} {ds more : List Datagram} {xs ys : List Effect}
    (first : Agree logs s ds t xs) (second : Agree logs t more u ys) :
    Agree logs s (ds ++ more) u (xs ++ ys) where
  raws := by
    rw [logOf_append, undecodables_append, List.map_append, first.raws, second.raws,
      List.filter_append, List.map_append]
  decodeFailures := by
    rw [second.decodeFailures, first.decodeFailures, logOf_append, undecodables_append,
      List.length_append, Nat.add_assoc]
  invalidNodeIds := by
    rw [second.invalidNodeIds, first.invalidNodeIds, logOf_append, length_refusals_append,
      Nat.add_assoc]
  nodesUpdated := by
    rw [second.nodesUpdated, first.nodesUpdated, logOf_append, updates_append, List.length_append,
      Nat.add_assoc]
  sinkForwards := by
    rw [second.sinkForwards, first.sinkForwards, logOf_append, updates_append, List.filter_append,
      List.length_append, Nat.add_assoc]
  pointed := by
    rw [second.pointed, first.pointed, logOf_append, points_append, List.length_append,
      Nat.add_assoc]
  updated := by
    rw [logOf_append, updates_append, namesIn_append, first.updated, second.updated, storedIds,
      storedIds, storedIds, List.filterMap_append, List.map_append]
  arrived := by
    rw [second.arrived, first.arrived, logOf_append, arrivals_append, namesIn_append,
      List.append_assoc]
  announced := by
    rw [logOf_append]
    exact first.announced.append (first.arrived ▸ second.announced)

theorem filter_undecodable_of_ok {d : Datagram} {r : Response} (decoded : d.decode = .ok r) :
    [d].filter Datagram.undecodable = [] := by
  rw [List.filter_cons_of_neg, List.filter_nil]
  rw [Datagram.undecodable, decoded]
  exact Bool.false_ne_true

theorem agree_undecodable (logs : Bool) (s : State) {d : Datagram} {e : DecodeError}
    (failed : d.decode = .error e) (unstored : d.stored? = none) :
    Agree logs s [d] (s.count .decodeFailure) [.notice (.undecodable d e.fault)] := by
  have marked : d.undecodable = true := by rw [Datagram.undecodable, failed]
  have raw : (Notice.undecodable d e.fault).event.raw? = some d.payload := by
    change Text.Hex.decode? (String.ofList (Text.Hex.encode d.payload)).toList = _
    rw [String.toList_ofList, Text.Hex.decode?_encode]
  have unnamed : storedIds [d] = [] := by rw [storedIds_singleton, unstored]; rfl
  refine ⟨?_, rfl, rfl, rfl, rfl, rfl, ?_, ?_, ?_⟩
  · rw [List.filter_cons_of_pos marked, List.filter_nil, List.map_singleton, ← raw]
    rfl
  · rw [unnamed]
    rfl
  · exact (List.append_nil _).symm
  · exact announced_of_silent _ rfl

theorem agree_refused (logs : Bool) (s : State) {d : Datagram} {r : Response}
    (decoded : d.decode = .ok r) (unstored : d.stored? = none) :
    Agree logs s [d] (s.count .invalidNodeId)
      [.notice (.decoded d.source), .notice (r.refusal d.source)] := by
  have unnamed : storedIds [d] = [] := by rw [storedIds_singleton, unstored]; rfl
  unfold Response.refusal
  split
  all_goals
    refine ⟨?_, rfl, rfl, rfl, rfl, rfl, ?_, ?_, ?_⟩
    · rw [filter_undecodable_of_ok decoded]
      rfl
    · rw [unnamed]
      rfl
    · exact (List.append_nil _).symm
    · exact announced_of_silent _ rfl

theorem counters_storedState (hasSink : Bool) (now : Int) (s : State) (id : NodeId) (r : Response) :
    (storedState hasSink now s id r).counters =
      { s.counters with
        nodesUpdated := s.counters.nodesUpdated + 1
        sinkForwards := s.counters.sinkForwards +
          if hasSink && (mergedNode s id r now).hasStatistics then 1 else 0 } := by
  unfold storedState
  dsimp only
  split <;> rfl

theorem length_filter_forwarded (id : NodeId) (source : SocketAddress) (forwarded : Bool) :
    ([(Notice.nodeUpdated id source forwarded).event].filter fun e =>
      e.field? "forwarded" = some "true").length = if forwarded then 1 else 0 := by
  cases forwarded <;> rfl

theorem agree_stored (logs hasSink : Bool) (now : Int) (s : State) {d : Datagram} {r : Response}
    {id : NodeId} (stored : d.stored? = some (id, r)) :
    Agree logs s [d] (storedState hasSink now s id r)
      (.notice (.decoded d.source) :: storedEffects hasSink now s d.source id r) := by
  have decoded := (Datagram.stored?_eq_some_iff.mp stored).1
  have named : storedIds [d] = [id] := by rw [storedIds_singleton, stored]; rfl
  let forwarded := hasSink && (mergedNode s id r now).hasStatistics
  let update := (Notice.nodeUpdated id d.source forwarded).event
  obtain ⟨before, log, unread, unrefused, silent, -, news⟩ :=
    logOf_stored logs hasSink now s d.source id r
  obtain ⟨seen, shown, -, -, -, written, -⟩ := logOf_stored true hasSink now s d.source id r
  have counters := counters_storedState hasSink now s id r
  have updated : updates (before ++ [update]) = [update] := by
    rw [updates_append, silent]
    rfl
  have arrived : arrivals (before ++ [update]) = arrivals before := by
    rw [arrivals_append]
    exact List.append_nil _
  have undecoded : undecodables (before ++ [update]) = [] := by
    rw [undecodables_append, unread]
    rfl
  refine ⟨?_, ?_, ?_, ?_, ?_, ?_, ?_, ?_, ?_⟩
  · rw [log, undecoded, filter_undecodable_of_ok decoded]
    rfl
  · rw [log, undecoded, counters]
    rfl
  · rw [log, length_refusals_append, unrefused, counters]
    rfl
  · rw [log, updated, counters]
    rfl
  · rw [log, updated, counters]
    exact congrArg (_ + ·) (length_filter_forwarded id d.source forwarded).symm
  · rw [shown, points_append, List.length_append, written, counters]
    rfl
  · rw [log, updated, named]
    rfl
  · rw [log, arrived, news]
    change ((s.registry.update id r now).1.ids.map fun id => some id.text) = _
    rw [Registry.ids_update]
    split
    · exact (List.append_nil _).symm
    · exact List.map_append
  · rw [log]
    refine Announced.concat silent ?_
    rw [news]
    split
    · rename_i known
      exact List.mem_append_left _ (List.mem_map_of_mem known)
    · exact List.mem_append_right _ (List.mem_singleton_self _)

theorem agree_handle (logs hasSink : Bool) (now : Int) (s : State) (d : Datagram) :
    Agree logs s [d] (handle hasSink now s d).1 (handle hasSink now s d).2 := by
  rcases handle_cases hasSink now s d with
    ⟨e, failed, unstored, step⟩ | ⟨r, decoded, unstored, step⟩ | ⟨id, r, -, stored, step⟩
  · rw [step]
    exact agree_undecodable logs s failed unstored
  · rw [step]
    exact agree_refused logs s decoded unstored
  · rw [step]
    exact agree_stored logs hasSink now s stored

/-! ## Whole runs -/

theorem agree_drainEach (logs hasSink : Bool) (s : State) (batches : List (List (Int × Datagram))) :
    Agree logs s (batches.flatten.map (·.2)) (drainEach hasSink s batches).1
      (drainEach hasSink s batches).2 :=
  drainEach_induction
    (fun _ => ⟨rfl, rfl, rfl, rfl, rfl, rfl, rfl, (List.append_nil _).symm, announced_of_silent _ rfl⟩)
    (fun _ => ⟨rfl, rfl, rfl, rfl, rfl, rfl, rfl, (List.append_nil _).symm, announced_of_silent _ rfl⟩)
    (agree_handle logs hasSink) Agree.append s batches

theorem registry_handle_of_unstored (hasSink : Bool) (now : Int) (s : State) {d : Datagram}
    (unstored : d.stored? = none) : (handle hasSink now s d).1.registry = s.registry := by
  rcases handle_cases hasSink now s d with
    ⟨e, -, -, step⟩ | ⟨r, -, -, step⟩ | ⟨id, r, -, stored, -⟩
  · rw [step]
    rfl
  · rw [step]
    rfl
  · cases unstored.symm.trans stored

/-- Known identifiers stand in the order in which something was stored under them for the first
time. -/
theorem ids_handleAll (hasSink : Bool) (run : List (Int × Datagram)) :
    (handleAll hasSink .initial run).1.registry.ids =
      (storedIds (run.map (·.2))).eraseDups := by
  induction run using List.reverseRecOn with
  | nil => rfl
  | append_singleton run x ih =>
    obtain ⟨now, d⟩ := x
    have last : storedIds ((run ++ [(now, d)]).map (·.2)) =
        storedIds (run.map (·.2)) ++ (d.stored?.map (·.1)).toList := by
      rw [List.map_append, storedIds, List.filterMap_append, ← storedIds, ← storedIds_singleton]
      rfl
    have known (id : NodeId) :
        id ∈ (handleAll hasSink .initial run).1.registry.ids ↔ id ∈ storedIds (run.map (·.2)) := by
      rw [ih, List.mem_eraseDups]
    rw [last, List.eraseDups_append, ← ih, handleAll_append]
    change (handle hasSink now (handleAll hasSink .initial run).1 d).1.registry.ids = _
    cases stored : d.stored? with
    | none =>
      rw [registry_handle_of_unstored hasSink now _ stored]
      exact (List.append_nil _).symm
    | some entry =>
      obtain ⟨id, r⟩ := entry
      rw [handle_of_stored stored]
      change ((handleAll hasSink .initial run).1.registry.update id r now).1.ids = _
      rw [Registry.ids_update]
      by_cases old : id ∈ storedIds (run.map (·.2))
      · rw [if_pos ((known id).mpr old)]
        simp [List.removeAll, old]
      · rw [if_neg (mt (known id).mp old)]
        simp [List.removeAll, old]
        rfl

/-- What one datagram does to the counters. -/
theorem counters_handle (hasSink : Bool) (now : Int) (s : State) (d : Datagram) :
    ∃ what ∈ [Counter.decodeFailure, .invalidNodeId, .nodeUpdated],
      (handle hasSink now s d).1.counters =
        { s.counters.bump what with
          sinkForwards := s.counters.sinkForwards +
            (writesOf (handle hasSink now s d).2).length } ∧
      (writesOf (handle hasSink now s d).2).length ≤ 1 := by
  rcases handle_cases hasSink now s d with
    ⟨e, -, -, step⟩ | ⟨r, -, -, step⟩ | ⟨id, r, -, -, step⟩
  · rw [step]
    exact ⟨.decodeFailure, by simp, rfl, Nat.zero_le 1⟩
  · rw [step]
    exact ⟨.invalidNodeId, by simp, rfl, Nat.zero_le 1⟩
  · rw [step]
    refine ⟨.nodeUpdated, by simp, ?_⟩
    have calls : writesOf (.notice (.decoded d.source) :: storedEffects hasSink now s d.source id r) =
        forward hasSink id (mergedNode s id r now) := writesOf_storedEffects ..
    rw [calls]
    change (storedState hasSink now s id r).counters = _ ∧ _
    rw [counters_storedState]
    unfold forward
    split
    · exact ⟨rfl, Nat.le_refl 1⟩
    · exact ⟨rfl, Nat.zero_le 1⟩

/-- Over an empty registry each datagram raises one of three counters by one and no other but that of
the calls of the sink. The log has one entry for each thing that is counted; those about datagrams
without a response show their payloads, in order. Each known identifier is reported once as new, in
the order in which something was stored under it for the first time, and before any update of its
node. -/
theorem drainEach_agrees (hasSink logs : Bool) (batches : List (List (Int × Datagram))) :
    let datagrams := batches.flatten.map (·.2)
    let run := drainEach hasSink .initial batches
    let before := stateAt hasSink .initial batches.flatten
    let calls i := writesOf (effectsAt hasSink .initial batches.flatten i)
    let counters := run.1.counters
    let registry := run.1.registry
    let log := logOf logs run.2
    (∀ i : Fin datagrams.length,
      ∃ what ∈ [Counter.decodeFailure, .invalidNodeId, .nodeUpdated],
        (before (i + 1)).counters =
          { (before i).counters.bump what with
            sinkForwards := (before i).counters.sinkForwards + (calls i).length } ∧
        (calls i).length ≤ 1) ∧
    (undecodables log).length = counters.decodeFailures ∧
    (undecodables log).map Event.raw? =
      (datagrams.filter Datagram.undecodable).map (fun d => some d.payload) ∧
    (refusals log).length = counters.invalidNodeIds ∧
    (updates log).length = counters.nodesUpdated ∧
    namesIn (updates log) = (storedIds datagrams).map (fun id => some id.text) ∧
    ((updates log).filter fun e => e.field? "forwarded" = some "true").length =
      counters.sinkForwards ∧
    (points (logOf true run.2)).length = counters.sinkForwards ∧
    namesIn (arrivals log) = registry.ids.map (fun id => some id.text) ∧
    registry.ids.Nodup ∧
    registry.ids = (storedIds datagrams).eraseDups ∧
    (arrivals log).length = registry.size ∧
    ∀ k, namesIn (updates (log.take k)) ⊆ namesIn (arrivals (log.take k)) := by
  intro datagrams run before calls counters registry log
  have agree := agree_drainEach logs hasSink .initial batches
  have new : namesIn (arrivals log) = registry.ids.map fun id => some id.text := agree.arrived.symm
  refine ⟨?_, ?_, agree.raws, ?_, ?_, agree.updated, ?_, ?_, new, nodup_ids_drainEach hasSink batches,
    ?_, ?_, ?_⟩
  · rintro ⟨i, inside⟩
    rw [List.length_map] at inside
    obtain ⟨⟨now, d⟩, here⟩ : ∃ x, batches.flatten[i]? = some x :=
      ⟨_, List.getElem?_eq_getElem inside⟩
    have effects : effectsAt hasSink .initial batches.flatten i =
        (handle hasSink now (before i) d).2 := by
      rw [effectsAt, here]
      rfl
    simp only [before, calls]
    rw [stateAt_succ here, effects]
    exact counters_handle hasSink now (before i) d
  · exact (agree.decodeFailures.trans (Nat.zero_add _)).symm
  · exact (agree.invalidNodeIds.trans (Nat.zero_add _)).symm
  · exact (agree.nodesUpdated.trans (Nat.zero_add _)).symm
  · exact (agree.sinkForwards.trans (Nat.zero_add _)).symm
  · exact (agree.pointed.trans (Nat.zero_add _)).symm
  · simp only [registry, run]
    rw [fst_drainEach, ids_handleAll]
  · have lengths := congrArg List.length new
    simpa only [namesIn, Registry.ids, Registry.size, List.length_map] using lengths
  · exact agree.announced

end Pipeline

end MeshTelemetry
