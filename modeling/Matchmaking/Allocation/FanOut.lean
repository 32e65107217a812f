import Std.Data.HashMap
import Matchmaking.Allocation.Assembly
import Matchmaking.Text.Quoted

/-!
# Placing a batch of matches

One task for each match asks the allocator, all at once; the answers come in any order. A match is
placed or given up by the first answer for it, and no answer touches another match.
-/

namespace Matchmaking.Allocation

/-- How a task ended. -/
inductive Outcome where
  | answered (r : Response)
  /-- The allocator could not be asked, or its answer could not be read. -/
  | refused (e : Error)
  /-- The task broke down; `task` is the name it ran under. -/
  | crashed (task message : String)
  deriving DecidableEq

/-- How a task that broke down is reported. -/
def breakdownText (task : String) : (message : Option String) → String
  | some message => s!"task {task} panicked with message {Text.quoted message}"
  | none => s!"task {task} panicked"

/-- What an outcome means for the match. -/
def Outcome.result : Outcome → Except Error Assignment
  | .answered r => r.assignment
  | .refused e => .error e
  | .crashed task message => .error (.taskFailed (breakdownText task (some message)))

/-- A batch of matches being placed. -/
structure FanOut where
  /-- How many tasks have not ended. -/
  running : Nat
  /-- The matches that no answer has come for. -/
  waiting : Std.HashMap MatchId Match
  /-- The matches with a server, in the order of the answers. -/
  allocated : List Match
  /-- The matches without one, in the order of the answers. -/
  failed : List Match
  /-- Why each match without a server has none. -/
  errors : Std.HashMap MatchId Error

namespace FanOut

/-- All tasks have started. Of several matches with one identifier the last counts. -/
def start (pending : List PendingMatch) : FanOut where
  running := pending.length
  waiting := pending.foldl (fun ms p => ms.insert p.game.id p.game) ∅
  allocated := []
  failed := []
  errors := ∅

def allocatedTrace (id : MatchId) (a : Assignment) : Trace :=
  .line .debug "Allocated server for match" [
    ("match_id", .text id.text),
    ("server_id", .text a.server),
    ("address", .text a.address),
    ("port", .number a.port.toNat)]

/-- The task of a match has ended. The end of a task whose match has been dealt with changes
nothing else. -/
def resolve (f : FanOut) (id : MatchId) (o : Outcome) : FanOut × Trace :=
  let f := { f with running := f.running - 1 }
  match f.waiting[id]? with
  | none => (f, [])
  | some m =>
    let f := { f with waiting := f.waiting.erase id }
    match o.result with
    | .ok a => ({ f with allocated := f.allocated ++ [m.assign a] }, allocatedTrace id a)
    | .error e => ({ f with failed := f.failed ++ [m], errors := f.errors.insert id e }, [])

def resolveAll (f : FanOut) (ends : List (MatchId × Outcome)) : FanOut :=
  ends.foldl (fun f (id, o) => (f.resolve id o).1) f

/-- The batch after all its tasks have ended, in the given order. -/
def allocateAll (pending : List PendingMatch) (ends : List (MatchId × Outcome)) : FanOut :=
  (start pending).resolveAll ends

def reason (f : FanOut) (id : MatchId) : String := (f.errors[id]?.map Error.message).getD ""

/-- Each failed match's identifier with its error, sorted by identifier. -/
def sortedErrors (f : FanOut) : List (MatchId × Error) :=
  f.errors.toList.mergeSort fun a b => a.1.value.toNat ≤ b.1.value.toNat

end FanOut

end Matchmaking.Allocation
