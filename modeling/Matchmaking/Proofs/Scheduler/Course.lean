import Matchmaking.Proofs.Allocation.Resolution
import Matchmaking.Proofs.Queue.Refinement
import Matchmaking.Scheduler.Tick

/-!
# Courses of a scheduler

A course is a scheduler together with what has happened to it: every wish that came in and, for each
tick, the queue it drained, how its tasks ended and what was announced. Ticks follow one another;
wishes come in between any two steps of a tick.
-/

namespace Matchmaking

open Time Allocation

/-- What has happened in a tick. -/
structure TickRecord where
  /-- The queue that was drained. -/
  found : TicketQueue
  batch : List PendingMatch
  /-- How tasks ended, in order. -/
  ends : List Ending
  /-- The wishes that came in between the drain and the requeue step. -/
  during : List Intent
  /-- Whether the requeue step has been taken. -/
  settled : Bool
  /-- The wishes that came in since the requeue step. -/
  after : List Intent
  /-- The matches announced, each with the notifier's verdict, in order. -/
  told : List (Match × Verdict)

namespace TickRecord

def drained (t : TickRecord) : List Intent := t.found.drain.1

def games (t : TickRecord) : List Match := gamesOf t.batch

/-- The matches whose tasks have ended, in order. -/
def ended (t : TickRecord) : List Match := t.ends.map Ending.game

/-- A tick of which only the drain and the assembly have happened. -/
def begun (found : TicketQueue) (batch : List PendingMatch) : TickRecord :=
  ⟨found, batch, [], [], false, [], []⟩

def hear (t : TickRecord) (i : Intent) : TickRecord :=
  if t.settled then { t with after := t.after ++ [i] } else { t with during := t.during ++ [i] }

end TickRecord

/-- A scheduler and what has happened to it. -/
structure Course where
  scheduler : Scheduler
  /-- Every wish that came in, in order. -/
  said : List Intent
  /-- The ticks that have started, the latest first. -/
  ticks : List TickRecord

namespace Course

def new (settings : Settings) : Course := ⟨.new settings, [], []⟩

def submit (c : Course) (i : Intent) : Course where
  scheduler := c.scheduler.submit i
  said := c.said ++ [i]
  ticks := c.ticks.modifyHead (·.hear i)

/-- A tick starts: the queue is drained and matches are made. -/
def begin (c : Course) (fresh : Nat → MatchId) (since : Nat) (now : Timestamp) : Course where
  scheduler := (c.scheduler.begin fresh since now).1
  said := c.said
  ticks := .begun c.scheduler.queue (c.scheduler.begin fresh since now).2.1 :: c.ticks

def resolve (c : Course) (m : Match) (o : Outcome) : Course where
  scheduler := (c.scheduler.resolve m.id o).1
  said := c.said
  ticks := c.ticks.modifyHead fun t => { t with ends := t.ends ++ [⟨m, o⟩] }

def settle (c : Course) : Course where
  scheduler := c.scheduler.settle.1
  said := c.said
  ticks := c.ticks.modifyHead fun t => { t with settled := true }

def announce (c : Course) (m : Match) (v : Verdict) : Course where
  scheduler := (c.scheduler.announced v).1
  said := c.said
  ticks := c.ticks.modifyHead fun t => { t with told := t.told ++ [(m, v)] }

def finish (c : Course) (elapsed : Nat) (now : Timestamp) : Course :=
  { c with scheduler := (c.scheduler.finish elapsed now).1 }

/-- A step of the scheduler. Ticks do not overlap, the matches of a tick have different identifiers,
every task ends once and in any way, the requeue step waits for all of them, and then the matches
with a server are announced one after another. -/
inductive Move : Course → Course → Prop where
  | begin {c : Course} (fresh : Nat → MatchId) (since : Nat) (now : Timestamp)
      (idle : c.scheduler.phase = .idle)
      (distinct : ((gamesOf (c.scheduler.begin fresh since now).2.1).map Match.id).Nodup) :
      Move c (c.begin fresh since now)
  | resolve {c : Course} {t : TickRecord} {since : Nat} {stats : TickStats} {batch : FanOut}
      (m : Match) (o : Outcome) (phase : c.scheduler.phase = .allocating since stats batch)
      (head : c.ticks.head? = some t) (made : m ∈ t.games) (running : m ∉ t.ended) :
      Move c (c.resolve m o)
  | settle {c : Course} {t : TickRecord} {since : Nat} {stats : TickStats} {batch : FanOut}
      (phase : c.scheduler.phase = .allocating since stats batch)
      (head : c.ticks.head? = some t) (ended : ∀ m ∈ t.games, m ∈ t.ended) :
      Move c c.settle
  | announce {c : Course} {since : Nat} {stats : TickStats} {m : Match} {left : List Match}
      (v : Verdict) (phase : c.scheduler.phase = .announcing since stats (m :: left)) :
      Move c (c.announce m v)
  | finish {c : Course} {since : Nat} {stats : TickStats} (elapsed : Nat) (now : Timestamp)
      (phase : c.scheduler.phase = .announcing since stats []) :
      Move c (c.finish elapsed now)

/-- A wish comes in, or the scheduler takes a step. -/
inductive Step : Course → Course → Prop where
  | submit {c : Course} (i : Intent) : Step c (c.submit i)
  | move {c d : Course} (h : Move c d) : Step c d

/-- The courses of a scheduler with the given settings. -/
inductive Reachable (settings : Settings) : Course → Prop where
  | new : Reachable settings (.new settings)
  | step {c d : Course} (h : Reachable settings c) (s : Step c d) : Reachable settings d

end Course

end Matchmaking
