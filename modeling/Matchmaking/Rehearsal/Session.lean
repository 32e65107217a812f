import Matchmaking.Intake.Api
import Matchmaking.Rehearsal.World

/-!
# Sessions

A rehearsal step by step: clients, operators and the scheduler act in turn on one service.
-/

namespace Matchmaking.Rehearsal

open Intake

/-- What is done in a step. -/
inductive Action where
  | submit (is : List Intent)
  | tick
  | drain
  | requeue (is : List Intent)
  /-- So many milliseconds pass. -/
  | advance (millis : Nat)
  | call (r : ApiRequest)
  /-- Nothing is done. -/
  | look

/-- What comes back from a step. -/
inductive Reaction where
  | nothing
  | drained (is : List Intent)
  | restored (count : Nat)
  | answered (r : ApiResponse)

namespace World

def withQueue (w : World) (q : TicketQueue) : World :=
  { w with scheduler := { w.scheduler with queue := q } }

def act (w : World) : Action → World × Reaction
  | .submit is => (w.submitAll is, .nothing)
  | .tick => (w.tick, .nothing)
  | .drain => (w.withQueue w.scheduler.queue.drain.2, .drained w.scheduler.queue.drain.1)
  | .requeue is =>
    let (restored, q) := w.scheduler.queue.requeue is
    ((w.withQueue q).record (TicketQueue.requeueTrace restored q), .restored restored)
  | .advance millis => (w.elapseTo (w.now + millis), .nothing)
  | .call r =>
    let (scheduler, response, trace) := Intake.handle w.scheduler w.today r
    (w.step (scheduler, trace), .answered response)
  | .look => (w, .nothing)

end World

end Matchmaking.Rehearsal
