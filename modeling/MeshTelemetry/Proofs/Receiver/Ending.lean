import MeshTelemetry.Proofs.Receiver.Delivery

/-!
# The receiver stops once, and for a reason

`moves` lists what the receiver does before it rests, and `Did` says that a run made a move right after
some of its steps. A move that ends the receiver comes from one of three situations (`Advances.ends`),
and the end of a run is always the end of such a move (`did_of_exit`, `Did.frozen`), so that the reason
can be read off the steps that the run had taken by then.

Behind the end nothing is read and nothing queued (`Frozen`); what lies in the queue is handed out, and
then each answer says that there will be no more (`answers_of_stopped`). Before it, a receiver has
begun one read more than it has finished exactly while it reads (`Counted`).
-/

namespace MeshTelemetry.Receiver

/-! ## Moves -/

/-- One thing that the receiver does: the state before it, and the state behind it. -/
structure Move where
  before : State
  after : State

/-- What the receiver does until it rests. -/
def moves (s : State) : List Move :=
  match step : advance? s with
  | none => []
  | some (next, _) =>
    have := work_advance? step
    ⟨s, next⟩ :: moves next
termination_by s.work

theorem moves_of_some {s next : State} {notices : List Notice}
    (move : advance? s = some (next, notices)) : moves s = ⟨s, next⟩ :: moves next := by
  conv => lhs; unfold moves
  split
  · rename_i rest
    cases rest.symm.trans move
  · rename_i other
    cases move.symm.trans other
    rfl

theorem settle_of_some {s next : State} {notices : List Notice}
    (move : advance? s = some (next, notices)) : (settle s).1 = (settle next).1 := by
  rw [settle]
  split
  · rename_i rest
    cases rest.symm.trans move
  · rename_i other
    cases move.symm.trans other
    rfl

section

variable {s : State} {m : Move}

/-- What everything that the receiver does keeps holds before each move. -/
theorem moves_preserve {P : State → Prop}
    (kept : ∀ {s next notices}, Advances s next notices → P s → P next) (start : P s)
    (mem : m ∈ moves s) : P m.before := by
  fun_induction moves s with
  | case1 s rest => cases mem
  | case2 s next notices move smaller ih =>
    rcases List.mem_cons.mp mem with rfl | later
    · exact start
    · exact ih (kept (advances_of_advance? move) start) later

theorem advances_of_mem (mem : m ∈ moves s) : ∃ notices, Advances m.before m.after notices := by
  fun_induction moves s with
  | case1 s rest => cases mem
  | case2 s next notices move smaller ih =>
    rcases List.mem_cons.mp mem with rfl | later
    · exact ⟨notices, advances_of_advance? move⟩
    · exact ih later

/-- Behind any of its moves the receiver goes on to the same rest. -/
theorem settle_of_mem (mem : m ∈ moves s) : (settle s).1 = (settle m.after).1 := by
  fun_induction moves s with
  | case1 s rest => cases mem
  | case2 s next notices move smaller ih =>
    rcases List.mem_cons.mp mem with rfl | later
    · exact settle_of_some move
    · exact (settle_of_some move).trans (ih later)

/-- The receiver rests where it was, or behind one of its moves. -/
theorem settle_eq_or (s : State) : (settle s).1 = s ∨ ∃ m ∈ moves s, m.after = (settle s).1 := by
  fun_induction settle s with
  | case1 s rest => exact .inl rfl
  | case2 s next notices move smaller last more tail ih =>
    rw [tail] at ih
    right
    rw [moves_of_some move]
    rcases ih with same | ⟨m, mem, after⟩
    · exact ⟨_, List.mem_cons_self .., same.symm⟩
    · exact ⟨m, List.mem_cons_of_mem _ mem, after⟩

end

/-! ## The end -/

theorem exit?_eq_some_iff {s : State} {reason : ReceiverExit} :
    s.exit? = some reason ↔ s.activity = .stopped reason := by
  unfold State.exit?
  cases s.activity <;> simp

section

variable {s next : State} {notices : List Notice}

/-- A receiver that has stopped does nothing. -/
theorem Advances.exit?_eq_none (move : Advances s next notices) : s.exit? = none := by
  unfold State.exit?
  cases move <;> simp [*]

/-- A move from a closed source ends the receiver. -/
theorem Advances.ends_closed (move : Advances s next notices) (closed : s.closed = true) :
    next.exit? = some .socketClosed := by
  cases move with
  | readClosed _ _ => rfl
  | heldDropped _ _ => rfl
  | readFailed _ opened _ => cases opened.symm.trans closed
  | read _ opened _ => cases opened.symm.trans closed
  | queueGone _ opened _ => cases opened.symm.trans closed
  | enqueued _ opened _ _ => cases opened.symm.trans closed

/-- A move that finds a failure ready in a read of an open source ends the receiver. -/
theorem Advances.ends_failed (move : Advances s next notices) (opened : s.closed = false)
    (reading : s.activity = .reading) {reason : String} {rest : List Input}
    (unread : s.unread = .failure reason :: rest) : next.exit? = some .readFailed := by
  cases move with
  | readFailed _ _ _ => rfl
  | readClosed _ closed => cases opened.symm.trans closed
  | heldDropped _ closed => cases opened.symm.trans closed
  | read _ _ other => cases unread.symm.trans other
  | queueGone holding _ _ => cases reading.symm.trans holding
  | enqueued holding _ _ _ => cases reading.symm.trans holding

/-- A move with a datagram in hand and no receiving half ends the receiver. -/
theorem Advances.ends_dropped (move : Advances s next notices) (opened : s.closed = false)
    {d : Datagram} (holding : s.activity = .holding d) (gone : s.dropped = true) :
    next.exit? = some .queueClosed := by
  cases move with
  | queueGone _ _ _ => rfl
  | readClosed _ closed => cases opened.symm.trans closed
  | heldDropped _ closed => cases opened.symm.trans closed
  | readFailed reading _ _ => cases holding.symm.trans reading
  | read reading _ _ => cases holding.symm.trans reading
  | enqueued _ _ kept _ => cases gone.symm.trans kept

/-- Those are the only moves that end the receiver, and they read nothing. -/
theorem Advances.ends (move : Advances s next notices) {reason : ReceiverExit}
    (exited : next.exit? = some reason) :
    (next.reads = s.reads ∧ next.received = s.received) ∧
    match reason with
    | .socketClosed => s.closed = true
    | .readFailed => s.closed = false ∧ s.activity = .reading ∧
        ∃ text, s.unread = .failure text :: next.unread
    | .queueClosed => s.closed = false ∧ s.dropped = true ∧ ∃ d, s.activity = .holding d := by
  cases move with
  | readClosed reading closed => cases exited; exact ⟨⟨rfl, rfl⟩, closed⟩
  | @readFailed text rest reading opened unread =>
    cases exited
    exact ⟨⟨rfl, rfl⟩, opened, reading, text, unread⟩
  | read reading opened unread => cases exited
  | heldDropped holding closed => cases exited; exact ⟨⟨rfl, rfl⟩, closed⟩
  | @queueGone d holding opened gone => cases exited; exact ⟨⟨rfl, rfl⟩, opened, gone, d, holding⟩
  | enqueued holding opened kept room => cases exited

end

/-! ## The source -/

theorem closed_settle (s : State) : (settle s).1.closed = s.closed := by
  refine settle_preserves (P := fun t => t.closed = s.closed) ?_ rfl
  intro t next notices move same
  cases move <;> exact same

theorem closed_run (capacity : Nat) (steps : List Step) :
    (History.run capacity steps).state.closed = decide (.close ∈ steps) :=
  flag_run (fun s e => (closed_settle _).trans (apply_touches s e).closed) rfl steps

/-! ## Behind the end -/

/-- The receiver has stopped, and since then it has read nothing and queued nothing. -/
structure Frozen (before s : State) : Prop where
  exited : before.exit?.isSome
  activity : s.activity = before.activity
  reads : s.reads = before.reads
  received : s.received = before.received
  queue : s.queue <:+ before.queue

theorem settle_of_exit {s : State} (exited : s.exit?.isSome) : settle s = (s, []) := by
  obtain ⟨reason, exit⟩ := Option.isSome_iff_exists.mp exited
  have rest : advance? s = none :=
    advance?_eq_none_iff.mpr (.inr (.inl ⟨reason, exit?_eq_some_iff.mp exit⟩))
  rw [settle]
  split
  · rfl
  · rename_i move
    cases rest.symm.trans move

/-- A step from outside neither ends the receiver nor brings it back. -/
theorem isSome_exit?_apply (s : State) (e : Step) :
    (apply s e).1.exit?.isSome = s.exit?.isSome := by
  unfold State.exit?
  rcases (apply_touches s e).activity with ⟨activity, -⟩ | ⟨fresh, reading, -⟩
  · rw [activity]
  · rw [fresh, reading]

/-- A receiver that has stopped does not react to a step from outside. -/
theorem step_of_exit {s : State} (exited : s.exit?.isSome) (e : Step) :
    step s e = ((apply s e).1, (apply s e).2, []) := by
  change ((settle (apply s e).1).1, (apply s e).2, (settle (apply s e).1).2) = _
  rw [settle_of_exit ((isSome_exit?_apply s e).trans exited)]

section

variable {before s : State}

theorem Frozen.exit? (frozen : Frozen before s) : s.exit? = before.exit? := by
  unfold State.exit?
  rw [frozen.activity]

theorem Frozen.step (frozen : Frozen before s) (e : Step) : Frozen before (step s e).1 := by
  have exited : s.exit?.isSome := frozen.exit? ▸ frozen.exited
  rw [step_of_exit exited]
  have touches := apply_touches s e
  rcases touches.activity with ⟨activity, reads⟩ | ⟨fresh, -, -⟩
  · exact ⟨frozen.exited, activity.trans frozen.activity, reads.trans frozen.reads,
      touches.received.trans frozen.received, touches.queue.trans frozen.queue⟩
  · simp [State.exit?, fresh] at exited

theorem frozen_foldl {h : History} (exited : h.state.exit?.isSome) (later : List Step) :
    Frozen h.state (later.foldl History.next h).state :=
  History.foldl_preserves (P := fun g => Frozen h.state g.state) (fun e frozen => frozen.step e)
    later ⟨exited, rfl, rfl, rfl, List.suffix_refl _⟩

end

/-- What some steps answer, one after the other. Only the taking of a datagram has an answer. -/
def answers (s : State) : List Step → List Taken
  | [] => []
  | e :: steps => (step s e).2.1.toList ++ answers (step s e).1 steps

/-- A receiver that has stopped hands out what lies in the queue, and then answers that there will be
no more. -/
theorem answers_of_stopped {s : State} (exited : s.exit?.isSome) (present : s.dropped = false)
    {later : List Step} (kept : .dropQueue ∉ later) :
    answers s later =
      (s.queue.take (later.count .recv)).map .datagram ++
        List.replicate (later.count .recv - s.queue.length) .disconnected := by
  induction later generalizing s with
  | nil => simp [answers]
  | cons e later ih =>
    rw [List.mem_cons, not_or] at kept
    have still : (step s e).1.exit?.isSome := by
      rw [step_of_exit exited]
      exact (isSome_exit?_apply s e).trans exited
    have remains : (step s e).1.dropped = false := by
      rw [dropped_step, present, decide_eq_false (Ne.symm kept.1)]
      rfl
    rw [answers, ih still remains kept.2, step_of_exit exited]
    cases e with
    | start =>
      obtain ⟨reason, exit⟩ := Option.isSome_iff_exists.mp exited
      simp [apply, exit?_eq_some_iff.mp exit]
    | push d => simp [apply]
    | pushError reason => simp [apply]
    | recv =>
      cases queue : s.queue with
      | nil => simp [apply, present, queue, exited, List.replicate_succ]
      | cons d more => simp [apply, present, queue]
    | close => simp [apply]
    | dropQueue => exact absurd rfl kept.1

/-! ## Moves of a run -/

/-- On a run of some steps the receiver made a move right after those taken. -/
def Did (capacity : Nat) (steps taken : List Step) (m : Move) : Prop :=
  ∃ earlier e, taken = earlier ++ [e] ∧ taken <+: steps ∧
    m ∈ moves (apply (History.run capacity earlier).state e).1

section

variable {capacity : Nat} {steps taken : List Step} {m : Move}

theorem Did.advances (did : Did capacity steps taken m) :
    ∃ notices, Advances m.before m.after notices := by
  obtain ⟨earlier, e, -, -, mem⟩ := did
  exact advances_of_mem mem

/-- The source was closed by then exactly if a step taken was a close. -/
theorem Did.closed (did : Did capacity steps taken m) :
    m.before.closed = decide (.close ∈ taken) := by
  obtain ⟨earlier, e, rfl, -, mem⟩ := did
  refine moves_preserve (P := fun s => s.closed = decide (.close ∈ earlier ++ [e])) ?_ ?_ mem
  · intro s next notices move same
    cases move <;> exact same
  · rw [(apply_touches _ e).closed, closed_run]
    simp [eq_comm]

theorem Did.dropped (did : Did capacity steps taken m) :
    m.before.dropped = decide (.dropQueue ∈ taken) := by
  obtain ⟨earlier, e, rfl, -, mem⟩ := did
  refine moves_preserve (P := fun s => s.dropped = decide (.dropQueue ∈ earlier ++ [e])) ?_ ?_ mem
  · intro s next notices move same
    cases move <;> exact same
  · rw [(apply_touches _ e).dropped, flag_run dropped_step rfl]
    simp [eq_comm]

/-- Behind a move that ends the receiver nothing changes until the run ends. -/
theorem Did.frozen (did : Did capacity steps taken m) (exited : m.after.exit?.isSome) :
    Frozen m.after (History.run capacity steps).state := by
  obtain ⟨earlier, e, rfl, ⟨later, rfl⟩, mem⟩ := did
  have reached : (History.run capacity (earlier ++ [e])).state = m.after := by
    rw [History.run_append]
    refine (settle_of_mem mem).trans ?_
    rw [settle_of_exit exited]
  rw [History.run_append, ← reached]
  exact frozen_foldl (reached ▸ exited) later

/-- A receiver that has stopped did so with one of its moves. -/
theorem did_of_exit (capacity : Nat) (steps : List Step)
    (exited : (History.run capacity steps).state.exit?.isSome) :
    ∃ taken m, Did capacity steps taken m ∧ m.after.exit?.isSome := by
  induction steps using List.reverseRecOn with
  | nil => cases exited
  | append_singleton steps e ih =>
    by_cases before : (History.run capacity steps).state.exit?.isSome
    · obtain ⟨taken, m, ⟨earlier, e', last, inside, mem⟩, ends⟩ := ih before
      exact ⟨taken, m, ⟨earlier, e', last, inside.trans (List.prefix_append ..), mem⟩, ends⟩
    · have running : ¬ (apply (History.run capacity steps).state e).1.exit?.isSome := by
        rwa [isSome_exit?_apply]
      rw [History.run_append] at exited
      rcases settle_eq_or (apply (History.run capacity steps).state e).1 with
        same | ⟨m, mem, after⟩
      · exact absurd (same ▸ exited) running
      · exact ⟨_, m, ⟨steps, e, rfl, List.prefix_refl _, mem⟩, after ▸ exited⟩

end

/-! ## Reads -/

/-- A receiver that has not stopped has begun as many reads as it has finished, and one more while it
reads. -/
def Counted (s : State) : Prop :=
  s.exit? = none → s.reads = s.received + if s.activity = .reading then 1 else 0

theorem Counted.advance {s next : State} {notices : List Notice}
    (move : Advances s next notices) (counted : Counted s) : Counted next := by
  unfold Counted at *
  cases move with
  | readClosed reading closed => exact fun running => nomatch running
  | readFailed reading opened unread => exact fun running => nomatch running
  | read reading opened unread =>
    intro _
    rw [State.take_eq]
    simpa [State.exit?, reading] using counted
  | heldDropped holding closed => exact fun running => nomatch running
  | queueGone holding opened gone => exact fun running => nomatch running
  | enqueued holding opened kept room =>
    intro _
    simpa [State.exit?, State.enqueue, holding] using counted

theorem Counted.apply {s : State} (counted : Counted s) (e : Step) : Counted (apply s e).1 := by
  unfold Counted State.exit? at *
  have touches := apply_touches s e
  rcases touches.activity with ⟨activity, reads⟩ | ⟨fresh, reading, reads⟩
  · rw [touches.received, activity, reads]
    exact counted
  · rw [touches.received, reading, reads]
    simpa [fresh] using counted

theorem counted_run (capacity : Nat) (steps : List Step) :
    Counted (History.run capacity steps).state :=
  History.foldl_preserves (P := fun h => Counted h.state)
    (fun e counted => settle_preserves Counted.advance (counted.apply e)) steps fun _ => rfl

theorem Did.counted {capacity : Nat} {steps taken : List Step} {m : Move}
    (did : Did capacity steps taken m) : Counted m.before := by
  obtain ⟨earlier, e, -, -, mem⟩ := did
  exact moves_preserve Counted.advance ((counted_run capacity earlier).apply e) mem

/-- The receiver reads, or it did until it stopped. -/
def InRead (capacity : Nat) (steps : List Step) : Prop :=
  (History.run capacity steps).state.activity = .reading ∨
    ∃ taken m, Did capacity steps taken m ∧ m.after.exit?.isSome ∧ m.before.activity = .reading

/-- The reads of a receiver that has stopped, told by what it was doing when it did. -/
theorem Did.reads_eq {capacity : Nat} {steps taken : List Step} {m : Move}
    (did : Did capacity steps taken m) (exited : m.after.exit?.isSome) :
    let s := (History.run capacity steps).state
    s.reads = s.received + if m.before.activity = .reading then 1 else 0 := by
  intro s
  have frozen : Frozen m.after s := did.frozen exited
  obtain ⟨notices, move⟩ := did.advances
  obtain ⟨reason, exit⟩ := Option.isSome_iff_exists.mp exited
  obtain ⟨⟨reads, received⟩, -⟩ := move.ends exit
  rw [frozen.reads, frozen.received, reads, received]
  exact did.counted move.exit?_eq_none

/-! ## After a close -/

/-- The source is closed, and the queue has lost entries at its front at most. -/
structure Draining (queue : List Datagram) (s : State) : Prop where
  closed : s.closed = true
  suffix : s.queue <:+ queue

section

variable {queue : List Datagram} {s next : State}

theorem Draining.advance {notices : List Notice} (move : Advances s next notices)
    (draining : Draining queue s) : Draining queue next := by
  cases move with
  | enqueued _ opened _ _ => cases opened.symm.trans draining.closed
  | _ => exact ⟨draining.closed, draining.suffix⟩

theorem Draining.apply (draining : Draining queue s) (e : Step) :
    Draining queue (apply s e).1 where
  closed := (apply_touches s e).closed.trans (by rw [draining.closed, Bool.true_or])
  suffix := (apply_touches s e).queue.trans draining.suffix

/-- Behind a close nothing is queued. -/
theorem draining_foldl (h : History) (later : List Step) :
    Draining h.state.queue (later.foldl History.next (h.next .close)).state :=
  History.foldl_preserves (P := fun g => Draining h.state.queue g.state)
    (fun e draining => settle_preserves Draining.advance (draining.apply e)) later
    (settle_preserves Draining.advance ⟨rfl, List.suffix_refl _⟩)

end

/-! ## Every run -/

/-- Once the receiver has stopped, the reason stays, and nothing more is read or queued. It is a closed
source exactly if a close had been taken when the receiver stopped, a failed read exactly if a read of
a source that was open took a failure, and a closed queue exactly if the receiver had a datagram in
hand, with the source open and the receiving half gone. From a close on, the queue only ever loses
entries at its front. Behind the end the receiving half hands out what is left, in order, and after that
nothing. A receiver has begun as many reads as it has read datagrams, and one more if it reads or if
its last read was its end. -/
theorem run_stops_once (capacity : Nat) (steps : List Step) :
    let h := History.run capacity steps
    (∀ reason later, h.state.exit? = some reason →
      let after := (History.run capacity (steps ++ later)).state
      after.exit? = some reason ∧ after.reads = h.state.reads ∧
        after.received = h.state.received ∧ after.queue <:+ h.state.queue) ∧
    (h.state.exit? = some .socketClosed ↔
      ∃ taken m, Did capacity steps taken m ∧ m.after.exit?.isSome ∧ .close ∈ taken) ∧
    (h.state.exit? = some .readFailed ↔
      ∃ taken m text, Did capacity steps taken m ∧ .close ∉ taken ∧
        m.before.activity = .reading ∧ m.before.unread = .failure text :: m.after.unread) ∧
    (h.state.exit? = some .queueClosed ↔
      ∃ taken m d, Did capacity steps taken m ∧ .close ∉ taken ∧ .dropQueue ∈ taken ∧
        m.before.activity = .holding d) ∧
    (∀ later, (History.run capacity (steps ++ .close :: later)).state.queue <:+ h.state.queue) ∧
    (∀ later, h.state.exit?.isSome → .dropQueue ∉ steps ++ later →
      answers h.state later =
        (h.state.queue.take (later.count .recv)).map .datagram ++
          List.replicate (later.count .recv - h.state.queue.length) .disconnected) ∧
    (InRead capacity steps → h.state.reads = h.state.received + 1) ∧
    (¬ InRead capacity steps → h.state.reads = h.state.received) := by
  intro h
  have ended {reason : ReceiverExit} (exit : h.state.exit? = some reason) :
      ∃ taken m notices, Did capacity steps taken m ∧ Advances m.before m.after notices ∧
        m.after.exit? = some reason := by
    obtain ⟨taken, m, did, exited⟩ := did_of_exit capacity steps (Option.isSome_of_eq_some exit)
    obtain ⟨notices, move⟩ := did.advances
    exact ⟨taken, m, notices, did, move, (did.frozen exited).exit?.symm.trans exit⟩
  have exit_of_did {taken : List Step} {m : Move} {reason : ReceiverExit}
      (did : Did capacity steps taken m) (exit : m.after.exit? = some reason) :
      h.state.exit? = some reason :=
    (did.frozen (Option.isSome_of_eq_some exit)).exit?.trans exit
  refine ⟨?_, ⟨?_, ?_⟩, ⟨?_, ?_⟩, ⟨?_, ?_⟩, ?_, ?_, ?_, ?_⟩
  · intro reason later exit after
    have frozen : Frozen h.state after := by
      simp only [after, History.run_append]
      exact frozen_foldl (Option.isSome_of_eq_some exit) later
    exact ⟨frozen.exit?.trans exit, frozen.reads, frozen.received, frozen.queue⟩
  · intro exit
    obtain ⟨taken, m, notices, did, move, exited⟩ := ended exit
    have closed : m.before.closed = true := (move.ends exited).2
    exact ⟨taken, m, did, Option.isSome_of_eq_some exited,
      of_decide_eq_true (did.closed.symm.trans closed)⟩
  · rintro ⟨taken, m, did, -, close⟩
    obtain ⟨notices, move⟩ := did.advances
    exact exit_of_did did (move.ends_closed (did.closed.trans (decide_eq_true close)))
  · intro exit
    obtain ⟨taken, m, notices, did, move, exited⟩ := ended exit
    obtain ⟨opened, reading, text, unread⟩ := (move.ends exited).2
    exact ⟨taken, m, text, did, of_decide_eq_false (did.closed.symm.trans opened), reading, unread⟩
  · rintro ⟨taken, m, text, did, opened, reading, unread⟩
    obtain ⟨notices, move⟩ := did.advances
    exact exit_of_did did
      (move.ends_failed (did.closed.trans (decide_eq_false opened)) reading unread)
  · intro exit
    obtain ⟨taken, m, notices, did, move, exited⟩ := ended exit
    obtain ⟨opened, gone, d, holding⟩ := (move.ends exited).2
    exact ⟨taken, m, d, did, of_decide_eq_false (did.closed.symm.trans opened),
      of_decide_eq_true (did.dropped.symm.trans gone), holding⟩
  · rintro ⟨taken, m, d, did, opened, gone, holding⟩
    obtain ⟨notices, move⟩ := did.advances
    exact exit_of_did did (move.ends_dropped (did.closed.trans (decide_eq_false opened)) holding
      (did.dropped.trans (decide_eq_true gone)))
  · intro later
    rw [History.run_append, List.foldl_cons]
    exact (draining_foldl h later).suffix
  · intro later exited kept
    rw [List.mem_append, not_or] at kept
    exact answers_of_stopped exited (dropped_run kept.1) kept.2
  · rintro (reading | ⟨taken, m, did, exited, reading⟩)
    · have counted := counted_run capacity steps
      unfold Counted State.exit? at counted
      rw [reading] at counted
      exact counted rfl
    · have reads := did.reads_eq exited
      rw [if_pos reading] at reads
      exact reads
  · intro apart
    obtain ⟨still, ended⟩ := not_or.mp apart
    by_cases exited : h.state.exit?.isSome
    · obtain ⟨taken, m, did, stops⟩ := did_of_exit capacity steps exited
      have reads := did.reads_eq stops
      rw [if_neg fun reading => ended ⟨taken, m, did, stops, reading⟩] at reads
      exact reads
    · have counted := counted_run capacity steps (Option.not_isSome_iff_eq_none.mp exited)
      rw [if_neg still] at counted
      exact counted

/-- A close while a datagram waits for room: what is in the queue can still be taken. -/
theorem run_stops_once_holding :
    let source : SocketAddress := .v4 ⟨203, 0, 113, 5⟩ 1234
    let steps := [Step.start, .push ⟨source, [1]⟩, .push ⟨source, [2]⟩, .close]
    let h := History.run 1 steps
    h.state.exit? = some .socketClosed ∧
      (History.run 1 (steps ++ [.dropQueue, .pushError "late"])).state.exit? =
        some .socketClosed ∧
      .dropQueue ∉ steps ++ [.recv, .recv] ∧
      answers h.state [.recv, .recv] = [.datagram ⟨source, [1]⟩, .disconnected] := by
  intro source steps h
  have run : h.state.exit? = some .socketClosed ∧ h.state.queue = [⟨source, [1]⟩] := by
    simp [h, steps, History.run, History.next, History.initial, step, settle, advance?, apply,
      State.take_eq, State.initial, fitted, State.stop, maxDatagramSize, State.exit?]
  have kept : .dropQueue ∉ steps ++ [.recv, .recv] := by simp [steps]
  obtain ⟨stays, -, -, -, -, drains, -⟩ := run_stops_once 1 steps
  have given := drains [.recv, .recv] (Option.isSome_of_eq_some run.1) kept
  rw [run.2] at given
  exact ⟨run.1, (stays .socketClosed _ run.1).1, kept, given⟩

end MeshTelemetry.Receiver
