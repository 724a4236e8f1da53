import Mathlib.Data.List.Induction
import MeshTelemetry.Proofs.RequestSchedule.Run

/-!
# A schedule starts once

`History.trace` lists what can be seen of the steps of a run: the answer to each, what is reported
because of it, and the history behind it. The interval of a schedule is the period of the first start
that has one (`period_run`), which decides the answer to every start, and the loop is handed over to
the first who asks for it behind that start (`countP_handles`).

A start that is refused changes nothing (`next_of_refused`): it comes between two steps, when the loop
waits, and a loop that waits goes on waiting (`settle_of_rest`). So a run without its refused starts is
the same run (`trace_kept`).
-/

namespace MeshTelemetry.RequestSchedule

/-! ## What can be seen of a run -/

/-- A step with its answer, what is reported because of it, and the history behind it. -/
structure Happening where
  step : Step
  reply : Reply
  notices : List Notice
  after : History

/-- A start that was refused. -/
def Happening.refused (x : Happening) : Bool :=
  match x.reply with
  | .refused _ => true
  | _ => false

/-- A start that was granted. -/
def Happening.granted (x : Happening) : Bool :=
  match x.step with
  | .start _ => x.reply = .done
  | _ => false

/-- What happens when a step is taken. -/
def History.happening (h : History) (e : Step) : Happening :=
  ⟨e, (RequestSchedule.step h.state e).2.1, (RequestSchedule.step h.state e).2.2, h.next e⟩

/-- What happens when steps are taken one after the other. -/
def History.trace (h : History) : List Step → List Happening
  | [] => []
  | e :: steps => h.happening e :: (h.next e).trace steps

theorem History.trace_append (h : History) (xs ys : List Step) :
    h.trace (xs ++ ys) = h.trace xs ++ (xs.foldl History.next h).trace ys := by
  induction xs generalizing h with
  | nil => rfl
  | cons e xs ih => simp only [List.cons_append, History.trace, ih, List.foldl_cons]

theorem History.getElem?_trace (h : History) (steps : List Step) (i : Nat) :
    (h.trace steps)[i]? = steps[i]?.map ((steps.take i).foldl History.next h).happening := by
  induction steps generalizing h i with
  | nil => rfl
  | cons e steps ih =>
    cases i with
    | zero => rfl
    | succ i => exact ih (h.next e) i

theorem History.trace_take (h : History) (steps : List Step) (i : Nat) :
    h.trace (steps.take i) = (h.trace steps).take i := by
  induction steps generalizing h i with
  | nil => simp [History.trace]
  | cons e steps ih =>
    cases i with
    | zero => rfl
    | succ i => simp only [List.take_succ_cons, History.trace, ih]

section

variable (address destination : SocketAddress) (steps : List Step)

/-- What happens in a run from the start. -/
def traceOf : List Happening :=
  (History.initial address destination).trace steps

variable {steps} in
theorem exists_of_getElem?_traceOf {i : Nat} {x : Happening}
    (here : (traceOf address destination steps)[i]? = some x) :
    ∃ e, steps[i]? = some e ∧
      (History.run address destination (steps.take i)).happening e = x := by
  rw [traceOf, History.getElem?_trace] at here
  exact Option.map_eq_some_iff.mp here

theorem traceOf_concat (e : Step) :
    traceOf address destination (steps ++ [e]) =
      traceOf address destination steps ++ [(History.run address destination steps).happening e] :=
  History.trace_append _ steps [e]

theorem run_concat (e : Step) :
    History.run address destination (steps ++ [e]) =
      (History.run address destination steps).next e :=
  History.run_append address destination steps [e]

end

/-! ## The first start with a period -/

/-- The period that a step can start the schedule with. -/
def Step.period? : Step → Option Interval
  | .start period => if period.nanos = 0 then none else some period
  | _ => none

theorem Step.eq_start_of_period? {e : Step} {period : Interval} (has : e.period? = some period) :
    e = .start period := by
  cases e with
  | start given =>
    by_cases zero : given.nanos = 0
    · simp [Step.period?, zero] at has
    · simp only [Step.period?, zero, if_false, Option.some.injEq] at has
      rw [has]
  | _ => cases has

/-- The period of the first start that has one. -/
def firstPeriod? (steps : List Step) : Option Interval :=
  steps.findSome? Step.period?

theorem firstPeriod?_concat (steps : List Step) (e : Step) :
    firstPeriod? (steps ++ [e]) = (firstPeriod? steps).or e.period? := by
  unfold firstPeriod?
  rw [List.findSome?_append, List.findSome?_singleton]

/-- The answer to a start, given the interval that the schedule has. -/
def startReply (known : Option Interval) (period : Interval) : Reply :=
  if known.isSome then .refused .alreadyStarted
  else if period.nanos = 0 then .refused .zeroInterval
  else .done

section

variable {s next : State} {e : Step} {reply : Reply}

/-- A schedule without an interval takes the one that a step has. -/
theorem Changes.period_eq (change : Changes s e next reply) :
    next.period = s.period.or e.period? := by
  cases change with
  | granted pos fresh => simp [Step.period?, fresh, Nat.ne_of_gt pos]
  | startedAlready known => simp [Option.or_of_isSome known]
  | _ => simp [Step.period?]

theorem Changes.startReply_eq {period : Interval} (change : Changes s (.start period) next reply) :
    reply = startReply s.period period := by
  cases change with
  | granted pos fresh => simp [startReply, fresh, Nat.ne_of_gt pos]
  | startedAlready known => simp [startReply, known]
  | withoutPeriod fresh => simp [startReply, fresh]

/-- The loop counts as handed over from the answer on that says so. -/
theorem Changes.handedOver_eq (change : Changes s e next reply) :
    next.handedOver.toNat = s.handedOver.toNat + if reply = .handle true then 1 else 0 := by
  cases change with
  | handedOver known free => simp [free]
  | _ => simp

end

/-- The loop is handed over if there is one that has not been handed over before. -/
theorem reply_takeHandle (s : State) :
    (apply s .takeHandle).2.1 = .handle (s.period.isSome && !s.handedOver) := by
  simp only [apply]
  split
  · rename_i free
    rw [free]
  · rename_i taken
    rw [Bool.eq_false_iff.mpr taken]

/-- A start is granted if it has a period and the schedule has no interval yet. -/
theorem granted_happening (h : History) (e : Step) :
    (h.happening e).granted = (h.state.period.isNone && e.period?.isSome) := by
  cases e with
  | start period =>
    have answer := (apply_changes h.state (.start period)).startReply_eq
    have granted : (h.happening (.start period)).granted =
        decide ((apply h.state (.start period)).2.1 = .done) := rfl
    rw [granted, answer, startReply, Step.period?]
    cases h.state.period <;> by_cases zero : period.nanos = 0 <;> simp [zero]
  | _ => simp [History.happening, Happening.granted, Step.period?]

theorem Happening.exists_of_refused {x : Happening} (refused : x.refused) :
    ∃ err, x.reply = .refused err := by
  unfold Happening.refused at refused
  split at refused
  · exact ⟨_, ‹_›⟩
  · cases refused

/-- Only starts are refused, and then nothing is done. -/
theorem apply_of_refused {s : State} {e : Step} {err : StartError}
    (refused : (apply s e).2.1 = .refused err) :
    apply s e = (s, .refused err, []) ∧ ∃ period, e = .start period := by
  cases e with
  | start period =>
    refine ⟨?_, period, rfl⟩
    simp only [apply] at refused ⊢
    cases result : start s period with
    | error other =>
      rw [result] at refused
      cases refused
      rfl
    | ok started =>
      rw [result] at refused
      cases refused
  | takeHandle =>
    rw [reply_takeHandle] at refused
    cases refused
  | advance millis => cases refused
  | stop => cases refused
  | close => cases refused

/-! ## A loop that waits -/

/-- A loop that waits goes on waiting, sends nothing and reports nothing. -/
theorem turn_of_rest {s : State} (idle : s.dueTicks = []) (waits : s.restingLoop = s.loop) :
    turn s = (s, 0, []) := by
  have state : (turn s).1 = s := by
    rw [fst_turn, waits]
  have ticks : (turn s).2.1 = 0 := by
    rw [ticks_turn, idle, List.length_nil]
  have quiet : (turn s).2.2 = [] := by
    unfold State.restingLoop at waits
    unfold turn
    cases loop : s.loop with
    | notStarted => rfl
    | ended => rfl
    | running ticker =>
      cases stopped : s.stopped with
      | true =>
        -- A loop that was running has ended, and so did not wait.
        rw [loop, stopped] at waits
        cases waits
      | false => rfl
  exact Prod.ext state (Prod.ext ticks quiet)

theorem settle_of_rest {s : State} (idle : s.dueTicks = []) (waits : s.restingLoop = s.loop) :
    settle s = (s, []) := by
  unfold settle
  rw [turn_of_rest idle waits]
  rfl

/-! ## Along a run -/

section

variable (address destination : SocketAddress)

/-- The interval of a schedule is the period of the first start that has one. -/
theorem period_run (steps : List Step) :
    (History.run address destination steps).state.period = firstPeriod? steps := by
  induction steps using List.reverseRecOn with
  | nil => rfl
  | append_singleton steps e ih =>
    rw [run_concat, History.state_next, period_settle, (apply_changes _ e).period_eq, ih,
      firstPeriod?_concat]

/-- The loop has been handed over as often as some step says so. -/
theorem countP_handles (steps : List Step) :
    (traceOf address destination steps).countP (·.reply = .handle true) =
      (History.run address destination steps).state.handedOver.toNat := by
  induction steps using List.reverseRecOn with
  | nil => rfl
  | append_singleton steps e ih =>
    have handed := (apply_changes (History.run address destination steps).state e).handedOver_eq
    rw [traceOf_concat, List.countP_append, ih, run_concat, History.state_next, fst_settle]
    refine Eq.trans ?_ handed.symm
    simp [History.happening, reply_step]

theorem handedOver_run (steps : List Step) :
    (History.run address destination steps).state.handedOver =
      (traceOf address destination steps).any (·.reply = .handle true) := by
  have counted := countP_handles address destination steps
  cases handed : (History.run address destination steps).state.handedOver with
  | true =>
    rw [handed, Bool.toNat_true] at counted
    have pos := List.countP_pos_iff.mp (counted ▸ Nat.one_pos)
    exact (List.any_eq_true.mpr pos).symm
  | false =>
    rw [handed, Bool.toNat_false, List.countP_eq_zero] at counted
    exact (List.any_eq_false.mpr counted).symm

/-- The starts that are granted are the first one that has a period, and no other. -/
theorem map_step_granted (steps : List Step) :
    ((traceOf address destination steps).filter Happening.granted).map (·.step) =
      (firstPeriod? steps).toList.map .start := by
  induction steps using List.reverseRecOn with
  | nil => rfl
  | append_singleton steps e ih =>
    have granted := granted_happening (History.run address destination steps) e
    rw [period_run] at granted
    rw [traceOf_concat, List.filter_append, List.map_append, ih, firstPeriod?_concat,
      List.filter_cons, List.filter_nil, granted]
    cases firstPeriod? steps with
    | some known => simp
    | none =>
      cases period : e.period? with
      | none => simp
      | some first => simp [History.happening, Step.eq_start_of_period? period]

variable {steps : List Step} {e : Step}

/-- A start that is refused changes nothing and reports nothing. -/
theorem next_of_refused
    (refused : ((History.run address destination steps).happening e).refused) :
    ((History.run address destination steps).happening e).notices = [] ∧
      (History.run address destination steps).next e = History.run address destination steps := by
  have idle := History.dueTicks_run address destination steps
  have waits := History.restingLoop_run address destination steps
  generalize History.run address destination steps = h at refused idle waits ⊢
  obtain ⟨err, answer⟩ := Happening.exists_of_refused refused
  obtain ⟨unchanged, period, rfl⟩ := apply_of_refused answer
  have rests := settle_of_rest idle waits
  refine ⟨?_, ?_⟩
  · simp only [History.happening, step, unchanged, rests, List.append_nil]
  · simp only [History.next, step, unchanged, rests, idle, reduceCtorEq, if_false, List.append_nil,
      sendEach]

/-- Without its refused starts a run is the same, and so is what happens in it. -/
theorem trace_kept (steps : List Step) :
    let kept := (traceOf address destination steps).filter (!·.refused)
    History.run address destination (kept.map (·.step)) = History.run address destination steps ∧
      traceOf address destination (kept.map (·.step)) = kept := by
  induction steps using List.reverseRecOn with
  | nil => exact ⟨rfl, rfl⟩
  | append_singleton steps e ih =>
    obtain ⟨same, trace⟩ := ih
    rw [traceOf_concat, List.filter_append, List.filter_cons, List.filter_nil]
    cases refused : ((History.run address destination steps).happening e).refused with
    | true =>
      have unchanged := (next_of_refused address destination refused).2
      simp only [Bool.not_true, Bool.false_eq_true, if_false, List.append_nil]
      rw [run_concat, unchanged]
      exact ⟨same, trace⟩
    | false =>
      simp only [Bool.not_false, if_true, List.map_append, List.map_singleton]
      rw [show ((History.run address destination steps).happening e).step = e from rfl, run_concat,
        run_concat, traceOf_concat, same, trace]
      exact ⟨rfl, rfl⟩

end

/-- Of all starts the first that has a period is granted, and no other: those before it are refused for
want of a period, and those behind it because the schedule has started. The interval is unknown before
it, and its period from then on. The loop is handed over to the first that asks for it behind that start,
so at most once. A start that is refused reports nothing and changes nothing, so that the answers, the
notices and the histories of all other steps are the same without the refused starts. -/
theorem run_starts_once (address destination : SocketAddress) (steps : List Step) :
    let after (i : Nat) := History.run address destination (steps.take i)
    let seen := traceOf address destination steps
    let kept := seen.filter (!·.refused)
    (∀ i, (after i).state.period = firstPeriod? (steps.take i)) ∧
    (∀ i x, seen[i]? = some x →
      steps[i]? = some x.step ∧
      x.after = after (i + 1) ∧
      (∀ period, x.step = .start period →
        x.reply = startReply (firstPeriod? (steps.take i)) period) ∧
      (x.step = .takeHandle → x.reply = .handle
        ((firstPeriod? (steps.take i)).isSome && !(seen.take i).any (·.reply = .handle true))) ∧
      (x.refused → (∃ period, x.step = .start period) ∧ x.notices = [] ∧ x.after = after i)) ∧
    (seen.filter Happening.granted).map (·.step) = (firstPeriod? steps).toList.map .start ∧
    seen.countP (·.reply = .handle true) ≤ 1 ∧
    History.run address destination (kept.map (·.step)) = History.run address destination steps ∧
    traceOf address destination (kept.map (·.step)) = kept := by
  intro after seen kept
  refine ⟨fun i => period_run .., fun i x here => ?_, map_step_granted .., ?_, trace_kept ..⟩
  · obtain ⟨e, found, rfl⟩ := exists_of_getElem?_traceOf address destination here
    have next : (after i).next e = after (i + 1) := by
      simp only [after]
      rw [List.take_add_one, found, Option.toList_some, run_concat]
    -- The answers are those of the state behind the steps before.
    refine ⟨found, next, fun period start => ?_, fun take => ?_, fun refused => ?_⟩
    · have answer := (apply_changes (after i).state (.start period)).startReply_eq
      rw [period_run] at answer
      exact (congrArg (fun e => (apply (after i).state e).2.1) start).trans answer
    · have answer := reply_takeHandle (after i).state
      rw [period_run, handedOver_run, traceOf, History.trace_take] at answer
      exact (congrArg (fun e => (apply (after i).state e).2.1) take).trans answer
    · obtain ⟨err, answer⟩ := Happening.exists_of_refused refused
      obtain ⟨quiet, unchanged⟩ := next_of_refused address destination refused
      exact ⟨(apply_of_refused answer).2, quiet, unchanged⟩
  · have counted : seen.countP (·.reply = .handle true) = _ :=
      countP_handles address destination steps
    rw [counted]
    exact Bool.toNat_le _

/-- A start behind a stop, when the loop has been handed over. -/
theorem run_starts_once_again :
    let host : SocketAddress := .v4 ⟨127, 0, 0, 1⟩ 1001
    let steps := [Step.start ⟨0⟩, .advance 7, .start ⟨10⟩, .takeHandle, .stop, .start ⟨3⟩, .takeHandle]
    firstPeriod? steps = some ⟨10⟩ ∧
    ∃ x, (traceOf host host steps)[5]? = some x ∧ x.step = .start ⟨3⟩ ∧
      x.reply = .refused .alreadyStarted ∧ x.notices = [] ∧
      x.after = History.run host host (steps.take 5) ∧
      (traceOf host host steps).countP (·.reply = .handle true) ≤ 1 := by
  intro host steps
  obtain ⟨-, each, -, once, -⟩ := run_starts_once host host steps
  obtain ⟨x, here, step⟩ : ∃ x, (traceOf host host steps)[5]? = some x ∧ x.step = .start ⟨3⟩ :=
    ⟨_, History.getElem?_trace _ steps 5, rfl⟩
  obtain ⟨-, -, start, -, refused⟩ := each 5 x here
  have reply : x.reply = .refused .alreadyStarted := (start ⟨3⟩ step).trans (by decide)
  have isRefused : x.refused = true := by
    unfold Happening.refused
    rw [reply]
  obtain ⟨-, quiet, unchanged⟩ := refused isRefused
  exact ⟨by decide, x, here, step, reply, quiet, unchanged, once⟩

end MeshTelemetry.RequestSchedule
