import Std.Data.HashMap
import Matchmaking.Id.Basic

/-!
# The waiting players

The queue holds each waiting player's latest wish between two ticks of the scheduler. Players are
drained in the order in which they joined; a player who asks again keeps the place and changes the
wish. Players whose match came to nothing are put back in front, unless they have asked again since.
-/

namespace Matchmaking

/-- A player's wish to be matched. -/
structure Intent where
  player : PlayerId
  /-- Whether the player is moved to the server as soon as the match is announced. -/
  autoTeleport : Bool
  deriving DecidableEq, Repr

/-- The waiting players in order, and the wish of each. -/
structure TicketQueue where
  order : List PlayerId
  wishes : Std.HashMap PlayerId Bool

namespace TicketQueue

def empty : TicketQueue := ⟨[], ∅⟩

def size (q : TicketQueue) : Nat := q.order.length

def isEmpty (q : TicketQueue) : Bool := q.size == 0

/-- The wishes of the waiting players, in order. -/
def intents (q : TicketQueue) : List Intent :=
  q.order.filterMap fun p => q.wishes[p]?.map fun wish => ⟨p, wish⟩

/-- Takes up a wish. The last wish of a player counts; the place is that of the first. -/
def submit (q : TicketQueue) (i : Intent) : TicketQueue where
  order := if i.player ∈ q.wishes then q.order else q.order ++ [i.player]
  wishes := q.wishes.insert i.player i.autoTeleport

def submitAll (q : TicketQueue) (is : List Intent) : TicketQueue := is.foldl submit q

/-- The wishes of all waiting players, and the queue without them. -/
def drain (q : TicketQueue) : List Intent × TicketQueue := (q.intents, empty)

/-- Adds the wishes of players who do not wait: those players, in order, and the wishes then. -/
def restore : (wishes : Std.HashMap PlayerId Bool) → List Intent →
    List PlayerId × Std.HashMap PlayerId Bool
  | wishes, [] => ([], wishes)
  | wishes, i :: is =>
    if i.player ∈ wishes then restore wishes is
    else
      let (players, wishes) := restore (wishes.insert i.player i.autoTeleport) is
      (i.player :: players, wishes)

/-- Puts wishes back in front of all others. A player who waits keeps the newer wish and its place.
Returns how many wishes were put back. -/
def requeue (q : TicketQueue) (is : List Intent) : Nat × TicketQueue :=
  let (players, wishes) := restore q.wishes is
  (players.length, ⟨players ++ q.order, wishes⟩)

end TicketQueue

end Matchmaking
