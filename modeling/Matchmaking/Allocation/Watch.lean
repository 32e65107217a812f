import Matchmaking.Allocation.FanOut

/-!
# Waiting for the tasks of a batch

Every match of a batch has a task that asks for its server, and the batch is done once all of them
have been heard of. A task that ends says which match it was for. Of one that breaks down only the
name is known, so the match of every name is noted when the tasks start.
-/

namespace Matchmaking.Allocation

/-- What comes of asking for a server. -/
inductive Answer where
  | response (r : Response)
  | refusal (why : Error)
  | breakdown (message : Option String)
  deriving DecidableEq

/-- What an answer means for the match, if the task ran under the given name. -/
def Answer.result (task : String) : Answer → Except Error Assignment
  | .response r => r.assignment
  | .refusal why => .error why
  | .breakdown message => .error (.taskFailed (breakdownText task message))

/-- A task that asks for the server of a match, and what comes of it. -/
structure Errand where
  task : String
  pending : PendingMatch
  answer : Answer
  deriving DecidableEq

inductive Report where
  | ended (id : MatchId) (answer : Except Error Response)
  | broken (task : String) (message : Option String)

/-- What a report means for the match that it is about. -/
def Report.outcome : Report → Outcome
  | .ended _ (.ok r) => .answered r
  | .ended _ (.error why) => .refused why
  | .broken task (some message) => .crashed task message
  | .broken task none => .refused (.taskFailed (breakdownText task none))

namespace Errand

def game (e : Errand) : Match := e.pending.game

def report (e : Errand) : Report :=
  match e.answer with
  | .response r => .ended e.game.id (.ok r)
  | .refusal why => .ended e.game.id (.error why)
  | .breakdown message => .broken e.task message

end Errand

/-- A batch whose tasks are waited for. -/
structure Watch where
  batch : FanOut
  /-- The match that each task is for, by the name of the task. -/
  owners : Std.HashMap String MatchId

namespace Watch

def start (es : List Errand) : Watch where
  batch := .start (es.map Errand.pending)
  owners := es.foldl (fun owners e => owners.insert e.task e.game.id) ∅

/-- The match that a report is about, as far as it is known. -/
def owner? (w : Watch) : Report → Option MatchId
  | .ended id _ => some id
  | .broken task _ => w.owners[task]?

/-- A task has been heard of. What is about no known match is passed over. -/
def hear (w : Watch) (r : Report) : Watch :=
  match w.owner? r with
  | some id => { w with batch := (w.batch.resolve id r.outcome).1 }
  | none => { w with batch := { w.batch with running := w.batch.running - 1 } }

/-- Listens as long as a task runs; the second part is what has not been listened to. -/
def listen : Watch → List Report → Watch × List Report
  | w, [] => (w, [])
  | w, r :: rs => if w.batch.running = 0 then (w, r :: rs) else (w.hear r).listen rs

/-- Starts the tasks of a batch and listens until all of them have been heard of. -/
def allocateAll (es : List Errand) (heard : List Report) : FanOut × List Report :=
  let (w, unheard) := (start es).listen heard
  (w.batch, unheard)

end Watch

end Matchmaking.Allocation
