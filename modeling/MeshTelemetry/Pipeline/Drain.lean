import MeshTelemetry.Pipeline.Update

/-!
Working off queued datagrams, in their order, each at the time at which its response is stored. A
datagram that holds no response is reported with its bytes and dropped.
-/

namespace MeshTelemetry.Pipeline

/-- Handle one datagram. -/
def handle (hasSink : Bool) (now : Int) (s : State) (d : Datagram) : State × List Effect :=
  match d.decode with
  | .error e => (s.count .decodeFailure, [.notice (.undecodable d e.fault)])
  | .ok r =>
    let (next, _, effects) := save hasSink now d.source r s
    (next, .notice (.decoded d.source) :: effects)

/-- Handle datagrams one after the other, each at its time. -/
def handleAll (hasSink : Bool) (s : State) : List (Int × Datagram) → State × List Effect
  | [] => (s, [])
  | (now, d) :: rest =>
    let (next, effects) := handle hasSink now s d
    let (last, more) := handleAll hasSink next rest
    (last, effects ++ more)

/-- Work off a queue to which nothing will be added, and report its end. -/
def drain (hasSink : Bool) (s : State) (queue : List (Int × Datagram)) : State × List Effect :=
  let (last, effects) := handleAll hasSink s queue
  (last, effects ++ [.notice .queueEnded])

end MeshTelemetry.Pipeline
