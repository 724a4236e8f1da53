import MeshTelemetry.Pipeline.Basic
import MeshTelemetry.Ticker

/-!
The worker that writes global aggregates to the sink once a minute, the first time a minute after
its start. Each tick looks at the registry once and makes three calls of the sink.
-/

namespace MeshTelemetry.StatsWorker

/-- The period. -/
def period : Interval :=
  .ofSeconds 60

/-- What the worker reports. -/
inductive Notice
  | saved (nodes clients : UInt64)
  | stopping
deriving Repr, DecidableEq

def Notice.event : Notice → Event
  | .saved nodes clients =>
    { level := .debug, target := "respond_collector::aggregator", message := "global stats saved"
      fields := [("nodes", toString nodes.toNat), ("clients", toString clients.toNat)] }
  | .stopping =>
    { level := .debug, target := "respond_collector::aggregator"
      message := "global stats worker stopping", fields := [] }

/-- One thing that the worker does. -/
inductive Effect
  | notice (n : Notice)
  | write (w : Write)
deriving Repr

/-- The worker with its clock, in nanoseconds. The number of ticks stands for a word of 64 bits, which
fewer than 2^64 ticks do not fill. -/
structure State where
  now : Nat
  /-- The ticker of a running worker. -/
  ticker : Option Ticker
  stopped : Bool
  ticks : Nat
deriving Repr, DecidableEq

def State.initial (now : Nat) : State :=
  { now, ticker := some ⟨now + period.nanos, period.nanos, by decide⟩, stopped := false, ticks := 0 }

def State.moment (s : State) : Timestamp :=
  ⟨s.now, 0⟩

/-- What one tick does: three calls of the sink from one look at the registry. -/
def save (r : Registry) (time : Timestamp) : List Effect :=
  let stats := GlobalStats.ofNodes r.snapshot
  (Write.ofStats stats time).map .write ++ [.notice (.saved stats.nodes stats.clients)]

/-- Let the worker go on until it waits or has ended. A stop comes before a tick that is due. -/
def settle (r : Registry) (s : State) : State × List Effect :=
  match s.ticker with
  | none => (s, [])
  | some ticker =>
    if s.stopped then ({ s with ticker := none }, [.notice .stopping])
    else
      let (count, last) := ticker.run s.now
      ({ s with ticker := some last, ticks := s.ticks + count },
        (List.replicate count (save r s.moment)).flatten)

/-- Let the clock jump by some milliseconds. -/
def advance (r : Registry) (s : State) (millis : Nat) : State × List Effect :=
  settle r { s with now := s.now + millis * Interval.millisecond }

/-- Tell the worker to stop. -/
def stop (r : Registry) (s : State) : State × List Effect :=
  settle r { s with stopped := true }

def State.finished (s : State) : Bool :=
  s.ticker.isNone

end MeshTelemetry.StatsWorker
