import Matchmaking.Allocation.FanOut
import Matchmaking.Announcement.Basic
import Matchmaking.Queue.Trace
import Matchmaking.Scheduler.Settings

/-!
# One tick of the scheduler

A tick drains the queue, puts matches together, waits for a server for each, deals with the matches
that got none, and announces the others one after another. It is a machine whose steps are small
enough for wishes to come in between any two of them: the queue is the only thing that submitters
and the scheduler share.
-/

namespace Matchmaking

open Time Allocation

/-- What a tick did. -/
structure TickStats where
  playersDrained : Nat
  matchesCreated : Nat
  matchesAllocated : Nat
  matchesFailed : Nat
  notificationsFailed : Nat
  playersRequeued : Nat
  durationMillis : Nat
  completedAt : Option Timestamp
  deriving DecidableEq

def TickStats.toJson (s : TickStats) : Json.Value :=
  .object [
    ("players_drained", .integer s.playersDrained),
    ("matches_created", .integer s.matchesCreated),
    ("matches_allocated", .integer s.matchesAllocated),
    ("matches_failed", .integer s.matchesFailed),
    ("notifications_failed", .integer s.notificationsFailed),
    ("players_requeued", .integer s.playersRequeued),
    ("duration_ms", .integer s.durationMillis),
    ("completed_at", (s.completedAt.map Timestamp.toJson).getD .null)]

def TickStats.begun (drained created : Nat) : TickStats :=
  ⟨drained, created, 0, 0, 0, 0, 0, none⟩

/-- Where a scheduler stands. -/
inductive Phase where
  /-- Between two ticks. -/
  | idle
  /-- Waiting for servers, since the given moment. -/
  | allocating (since : Nat) (stats : TickStats) (batch : FanOut)
  /-- Announcing the matches that are left. -/
  | announcing (since : Nat) (stats : TickStats) (left : List Match)

structure Scheduler where
  settings : Settings
  queue : TicketQueue
  /-- How many matches have been made. -/
  made : Nat
  phase : Phase
  lastTick : Option TickStats

namespace Scheduler

def new (settings : Settings) : Scheduler := ⟨settings, .empty, 0, .idle, none⟩

def assembler (s : Scheduler) : Assembler :=
  .new s.settings.fleet s.settings.gameMode s.settings.playersPerMatch

def submit (s : Scheduler) (i : Intent) : Scheduler := { s with queue := s.queue.submit i }

def submitAll (s : Scheduler) (is : List Intent) : Scheduler :=
  { s with queue := s.queue.submitAll is }

/-- Starts a tick: drains the queue and makes the matches that servers are wanted for. -/
def begin (s : Scheduler) (fresh : Nat → MatchId) (elapsed : Nat) (now : Timestamp) :
    Scheduler × List PendingMatch × Trace :=
  let (is, queue) := s.queue.drain
  let pending := s.assembler.assemble fresh s.made now is
  let stats := TickStats.begun is.length pending.length
  ({ s with
      queue
      made := s.made + pending.length
      phase := .allocating elapsed stats (.start pending) },
    pending, s.assembler.assembleTrace is pending)

def resolve (s : Scheduler) (id : MatchId) (o : Outcome) : Scheduler × Trace :=
  match s.phase with
  | .allocating since stats batch =>
    let (batch, trace) := batch.resolve id o
    ({ s with phase := .allocating since stats batch }, trace)
  | _ => (s, [])

def failedTrace (batch : FanOut) (m : Match) : Trace :=
  .line .error "Failed to allocate server for match" [
    ("match_id", .text m.id.text),
    ("players", .text ("[" ++ String.intercalate ", " (m.players.map PlayerId.label) ++ "]")),
    ("error", .text (batch.reason m.id))]

/-- Puts the players of failed matches back, if the policy says so: how many were put back, the
queue, and what is logged. -/
def giveBack (policy : FailurePolicy) (failed : List Match) (q : TicketQueue) :
    Nat × TicketQueue × Trace :=
  if policy = .requeue ∧ failed ≠ [] then
    let (restored, after) := q.requeue (intentsOf failed)
    let summary : Trace :=
      if restored = 0 then []
      else .line .warn "Requeued players from failed matches"
        [("players_requeued", .number restored)]
    (restored, after, TicketQueue.requeueTrace restored after ++ summary)
  else (0, q, [])

/-- Deals with the matches that got no server, once every task has ended. -/
def settle (s : Scheduler) : Scheduler × Trace :=
  match s.phase with
  | .allocating since stats batch =>
    if batch.running = 0 then
      let (restored, queue, trace) := giveBack s.settings.failurePolicy batch.failed s.queue
      let stats := { stats with
        matchesAllocated := batch.allocated.length
        matchesFailed := batch.failed.length
        playersRequeued := restored }
      ({ s with queue, phase := .announcing since stats batch.allocated },
        batch.failed.flatMap (failedTrace batch) ++ trace)
    else (s, [])
  | _ => (s, [])

def undeliveredTrace (m : Match) (e : NotifyError) : Trace :=
  .line .error "Failed to send match created message" [
    ("match_id", .text m.id.text),
    ("error", .text e.message)]

/-- The next announcement has been tried. -/
def announced (s : Scheduler) (v : Verdict) : Scheduler × Trace :=
  match s.phase with
  | .announcing since stats (m :: left) =>
    match v with
    | none => ({ s with phase := .announcing since stats left }, [])
    | some e =>
      let stats := { stats with notificationsFailed := stats.notificationsFailed + 1 }
      ({ s with phase := .announcing since stats left }, undeliveredTrace m e)
  | _ => (s, [])

/-- What a tick logs at its end: nothing if it made no match. -/
def completeTrace (stats : TickStats) : Trace :=
  if stats.matchesCreated = 0 then []
  else .line .info "Matchmaking tick complete" [
    ("players_drained", .number stats.playersDrained),
    ("matches_created", .number stats.matchesCreated),
    ("matches_allocated", .number stats.matchesAllocated),
    ("matches_failed", .number stats.matchesFailed),
    ("notifications_failed", .number stats.notificationsFailed),
    ("players_requeued", .number stats.playersRequeued),
    ("duration_ms", .number stats.durationMillis)]

/-- Ends a tick, once every announcement has been tried. -/
def finish (s : Scheduler) (elapsed : Nat) (now : Timestamp) : Scheduler × Trace :=
  match s.phase with
  | .announcing since stats [] =>
    let stats := { stats with durationMillis := elapsed - since, completedAt := some now }
    ({ s with phase := .idle, lastTick := some stats }, completeTrace stats)
  | _ => (s, [])

end Scheduler

end Matchmaking
