import Matchmaking.Allocation.Static
import Matchmaking.Scheduler.Tick

/-!
# Scripted partners

The allocator and the notifier of a rehearsal answer from a script: how long each call takes, who
joins the queue while it is under way, and how it ends.
-/

namespace Matchmaking.Rehearsal

open Allocation

/-- The answer to a call: it takes so many milliseconds, then wishes come in, then the call ends. -/
structure Reply (α : Type) where
  delay : Nat
  arrivals : List Intent
  verdict : α

def Reply.atOnce {α : Type} (verdict : α) : Reply α := ⟨0, [], verdict⟩

/-- Replies in the order of the calls, and the reply to all further calls. -/
structure Script (α : Type) where
  steps : List (Reply α)
  otherwise : Reply α

def Script.next {α : Type} (s : Script α) : Reply α × Script α :=
  match s.steps with
  | [] => (s.otherwise, s)
  | r :: rest => (r, { s with steps := rest })

def readyServer : Response where
  state := some .allocated
  server := "gs"
  address := "10.0.0.1"
  ports := [⟨"default", 7000⟩]
  annotations := .empty

inductive AllocatorModel where
  | scripted (script : Script Outcome)
  | static (allocator : StaticAllocator)

/-- Asks the allocator: its reply, and what the call leaves behind when it starts. -/
def AllocatorModel.call (a : AllocatorModel) (r : Request) :
    Reply Outcome × AllocatorModel × Trace :=
  match a with
  | .scripted script =>
    let (reply, script) := script.next
    (reply, .scripted script, [.allocate r])
  | .static allocator =>
    let (allocator, response, trace) := allocator.allocate r
    (.atOnce (.answered response), .static allocator, trace)

/-! ## Batches -/

/-- A task that asks for the server of a match. -/
structure Task where
  id : MatchId
  /-- What the call leaves behind when it starts. -/
  called : Trace
  reply : Reply Outcome

/-- Asks for the servers of all matches at once. -/
def AllocatorModel.callAll (a : AllocatorModel) : List PendingMatch → List Task × AllocatorModel
  | [] => ([], a)
  | p :: rest =>
    let (reply, a, called) := a.call p.request
    let (tasks, a) := a.callAll rest
    (⟨p.game.id, called, reply⟩ :: tasks, a)

/-- Tasks in the order in which they end: by delay, those of one delay in the order of their
start. -/
def byEnd (tasks : List Task) : List Task :=
  tasks.mergeSort fun a b => a.reply.delay ≤ b.reply.delay

/-- How tasks and the one who waits for them take turns; zero stands for no limit. -/
structure Turns where
  /-- How many tasks run before their answers are looked at. -/
  tasks : Nat
  /-- How many answers are dealt with before others go first. -/
  answers : Nat

/-- The turns of one who waits for tasks and does not run as a task. -/
def Turns.aside : Turns := ⟨61, 128⟩

/-- The turns of one who runs as a task among the others. -/
def Turns.among : Turns := ⟨0, 128⟩

def rounds {α : Type} (size : Nat) (xs : List α) : List (List α) :=
  if size = 0 ∨ xs.length ≤ size then [xs] else xs.take size :: rounds size (xs.drop size)
termination_by xs.length
decreasing_by
  simp only [List.length_drop]
  omega

/-- Rounds lose nothing and keep the order. -/
theorem flatten_rounds {α : Type} (size : Nat) (xs : List α) : (rounds size xs).flatten = xs := by
  fun_induction rounds size xs with
  | case1 => simp
  | case2 xs _ ih => rw [List.flatten_cons, ih, List.take_append_drop]

/-- The order in which answers that are there at once are dealt with, so many of them in one turn:
the answer after a full turn goes behind the others. -/
def inTurns {α : Type} (turn : Nat) (answers : List α) : List α :=
  if turn = 0 ∨ answers.length ≤ turn then answers
  else answers.take turn ++ inTurns turn (answers.drop (turn + 1) ++ (answers.drop turn).take 1)
termination_by answers.length
decreasing_by
  simp only [List.length_append, List.length_drop, List.length_take]
  omega

/-- Turns lose no answer and add none. -/
theorem inTurns_perm {α : Type} (turn : Nat) (answers : List α) :
    (inTurns turn answers).Perm answers := by
  fun_induction inTurns turn answers with
  | case1 => exact .refl _
  | case2 answers _ ih =>
    refine (ih.append_left _).trans ?_
    have hdrop : (answers.drop turn).take 1 ++ answers.drop (turn + 1) = answers.drop turn := by
      rw [← List.drop_drop, List.take_append_drop]
    have hswap : (answers.drop (turn + 1) ++ (answers.drop turn).take 1).Perm
        ((answers.drop turn).take 1 ++ answers.drop (turn + 1)) := List.perm_append_comm
    have hwhole := hswap.append_left (answers.take turn)
    rwa [hdrop, List.take_append_drop] at hwhole

/-- Some of the tasks of a batch: the tasks that start, and those whose answers are dealt with
then, in order. -/
structure Round where
  started : List Task
  ended : List Task

def Turns.order (turns : Turns) (tasks : List Task) : List Task :=
  (rounds turns.tasks tasks).flatMap (inTurns turns.answers)

/-- A batch round by round: tasks without delay end in the round in which they start, the others
after all have started, those of one moment together. -/
def Turns.plan (turns : Turns) (tasks : List Task) : List Round :=
  let atOnce (t : Task) := t.reply.delay == 0
  let later := (byEnd (tasks.filter (!atOnce ·))).splitBy fun a b => a.reply.delay == b.reply.delay
  (rounds turns.tasks tasks).map (fun ts => ⟨ts, inTurns turns.answers (ts.filter atOnce)⟩) ++
    later.map fun ts => ⟨[], turns.order ts⟩

/-- What the calls of a round leave behind. -/
def Round.trace (r : Round) : Trace := r.started.flatMap (·.called)

def longest (tasks : List Task) : Nat := (tasks.map (·.reply.delay)).foldl max 0

/-- The most calls that are under way at one time, with `under` of them still under way from before:
tasks start one by one, and one without delay ends before the next starts. -/
def mostUnderWay (under : Nat) : List Task → Nat
  | [] => 0
  | t :: rest =>
    max (under + 1) (mostUnderWay (if t.reply.delay = 0 then under else under + 1) rest)

inductive NotifierModel where
  | scripted (script : Script Verdict)
  | log

/-- Announces a match: the reply, and what the call leaves behind when it ends. -/
def NotifierModel.call (n : NotifierModel) (m : Match) : Reply Verdict × NotifierModel × Trace :=
  match n with
  | .scripted script =>
    let (reply, script) := script.next
    (reply, .scripted script, [.notify m])
  | .log => (.atOnce none, .log, logAnnouncement m)

end Matchmaking.Rehearsal
