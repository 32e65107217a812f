import Matchmaking.Rehearsal.Script
import Matchmaking.Scheduler.Pacing

/-!
# Rehearsals

The scheduler in virtual time, with scripted partners and with wishes and shutdown signals that come
at set moments. Time passes only where the scheduler waits: for an allocation, for an announcement,
or for the next tick to be due.
-/

namespace Matchmaking.Rehearsal

open Time Allocation

/-- Something that comes from outside. -/
inductive Signal where
  | submit (is : List Intent)
  /-- The shutdown value is set. -/
  | send (value : Bool)
  /-- Whoever could ask for shutdown goes. -/
  | abandon

/-- A rehearsal at a moment, in milliseconds. -/
structure World where
  scheduler : Scheduler
  allocator : AllocatorModel
  notifier : NotifierModel
  channel : ShutdownChannel
  /-- The identifiers of matches in the order in which they are made. -/
  fresh : Nat → MatchId
  /-- The one reading of the wall clock. -/
  today : Timestamp
  now : Nat
  /-- What is to come, with its moment, in order. -/
  due : List (Nat × Signal)
  /-- What has happened, with its moment, in order. -/
  trace : List (Nat × TraceEntry)
  turns : Turns := .aside

namespace World

def record (w : World) (t : Trace) : World := { w with trace := w.trace ++ t.map (w.now, ·) }

def step (w : World) (r : Scheduler × Trace) : World := { w with scheduler := r.1 }.record r.2

def submitAll (w : World) (is : List Intent) : World :=
  { w with scheduler := w.scheduler.submitAll is }

def receive (w : World) : Signal → World
  | .submit is => w.submitAll is
  | .send value => { w with channel := w.channel.send value }
  | .abandon => { w with channel := w.channel.abandon }

/-- Lets time pass up to a moment; what is due by then arrives in order. -/
def elapseTo (w : World) (moment : Nat) : World :=
  let (arrived, due) := w.due.span fun s => s.1 ≤ moment
  let w := { w with due, now := max w.now moment }
  arrived.foldl (fun w s => w.receive s.2) w

/-- A reply comes in: time passes, then its wishes come in. -/
def awaitReply {α : Type} (w : World) (since : Nat) (r : Reply α) : World :=
  (w.elapseTo (since + r.delay)).submitAll r.arrivals

/-- The tasks that started at a moment end, one after another. -/
def endTasks (since : Nat) : List Task → World → World
  | [], w => w
  | t :: rest, w =>
    let w := w.awaitReply since t.reply
    endTasks since rest (w.step (w.scheduler.resolve t.id t.reply.verdict))

/-- Plays a round of a batch that started at a moment. -/
def playRound (since : Nat) (w : World) (r : Round) : World :=
  endTasks since r.ended (w.record r.trace)

def announce : List Match → World → World
  | [], w => w
  | m :: rest, w =>
    let (reply, notifier, trace) := w.notifier.call m
    let w := { w with notifier }
    let w := (w.awaitReply w.now reply).record trace
    announce rest (w.step (w.scheduler.announced reply.verdict))

def unannounced (s : Scheduler) : List Match :=
  match s.phase with
  | .announcing _ _ left => left
  | _ => []

def tick (w : World) : World :=
  let (scheduler, pending, trace) := w.scheduler.begin w.fresh w.now w.today
  let w := { w with scheduler }.record trace
  let (tasks, allocator) := w.allocator.callAll pending
  let w := (w.turns.plan tasks).foldl (playRound w.now) { w with allocator }
  let w := w.step w.scheduler.settle
  let w := announce (unannounced w.scheduler) w
  w.step (w.scheduler.finish w.now w.today)

/-- Waits up to a moment, or until the scheduler has to stop. Signals of one moment arrive
together. -/
def waitUntil (moment : Nat) : (fuel : Nat) → World → World
  | 0, w => w.elapseTo moment
  | fuel + 1, w =>
    if w.channel.stops then w
    else match w.due with
      | [] => w.elapseTo moment
      | (t, _) :: _ =>
        if t < moment then waitUntil moment fuel (w.elapseTo t) else { w with now := moment }

/-- Waits after a tick that started at a moment, as long as the tick rate asks for. -/
def rest (w : World) (since : Nat) : World :=
  let elapsed := Duration.ofMillis (w.now - since)
  match idleTime elapsed w.scheduler.settings.tickRate with
  | some idle => waitUntil (w.now + idle.millis) (w.due.length + 1) w
  | none => w.record (overrunTrace elapsed w.scheduler.settings.tickRate)

/-- Runs ticks until the scheduler has to stop, at most `fuel` of them. -/
def loop : (fuel : Nat) → World → World
  | 0, w => w
  | fuel + 1, w => if w.channel.stops then w else loop fuel (w.tick.rest w.now)

/-- Runs the scheduler until shutdown. Somebody who could ask for it leaves after the last signal,
so that with a tick rate of at least a millisecond there is at most one tick for each millisecond up
to then. -/
def run (w : World) : World :=
  let last := (w.due.map (·.1)).foldl max 0
  let w := { w with turns := .among }.elapseTo w.now
  let w := w.record (startTrace w.scheduler)
  let w := loop (last + 2) w
  w.record stopTrace

/-- Lets everything arrive that is still to come, after the scheduler has stopped. -/
def afterwards (w : World) : World :=
  w.due.foldl (fun w s => w.receive s.2) { w with due := [] }

end World

/-! ## Batches on their own -/

/-- A batch placed outside a tick: what became of it, when it was done, the most calls under way at
one time, and what happened. -/
structure BatchRun where
  batch : FanOut
  elapsed : Nat
  peak : Nat
  trace : List (Nat × TraceEntry)

def endBatch : List Task → FanOut → FanOut × List (Nat × TraceEntry)
  | [], f => (f, [])
  | t :: rest, f =>
    let (f, trace) := f.resolve t.id t.reply.verdict
    let (f, more) := endBatch rest f
    (f, trace.map (t.reply.delay, ·) ++ more)

def playBatch : List Round → FanOut → FanOut × List (Nat × TraceEntry)
  | [], f => (f, [])
  | r :: rest, f =>
    let (f, trace) := endBatch r.ended f
    let (f, more) := playBatch rest f
    (f, r.trace.map (0, ·) ++ trace ++ more)

def runBatch (a : AllocatorModel) (pending : List PendingMatch) : BatchRun :=
  let tasks := (a.callAll pending).1
  let (batch, trace) := playBatch (Turns.aside.plan tasks) (.start pending)
  ⟨batch, longest tasks, mostUnderWay 0 tasks, trace⟩

end Matchmaking.Rehearsal
