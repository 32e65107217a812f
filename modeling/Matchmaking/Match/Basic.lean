import Matchmaking.Id.Basic
import Matchmaking.Time.Timestamp

/-!
# Matches

A match is a batch of tickets that will share a game server. It lives for one tick of the
scheduler: it is put together from waiting players, gets an assignment if a server is found, and is
then announced or given up.
-/

namespace Matchmaking

open Time

/-- A request to be matched. -/
structure Ticket where
  players : List PlayerId
  createdAt : Timestamp
  gameMode : String
  /-- Whether the player is moved to the server as soon as the match is announced. -/
  autoTeleport : Bool
  /-- Reserved. -/
  dequeueOnDisconnect : Bool
  /-- Reserved. -/
  inPendingMatch : Bool
  deriving DecidableEq

def Ticket.forPlayer (player : PlayerId) (gameMode : String) (autoTeleport : Bool)
    (createdAt : Timestamp) : Ticket :=
  ⟨[player], createdAt, gameMode, autoTeleport, false, false⟩

/-- The server that a match was placed on. -/
structure Assignment where
  server : String
  address : String
  port : UInt16
  protocolVersion : Option Int64
  versionName : Option String
  deriving DecidableEq

/-- A batch of tickets for one server. -/
structure Match where
  id : MatchId
  gameMode : String
  map : Option String
  tickets : List Ticket
  assignment : Option Assignment
  deriving DecidableEq

namespace Match

def new (id : MatchId) (gameMode : String) : Match := ⟨id, gameMode, none, [], none⟩

def ticketCount (m : Match) : Nat := m.tickets.length

def isAssigned (m : Match) : Bool := m.assignment.isSome

/-- The players of a match, ticket by ticket. -/
def players (m : Match) : List PlayerId := m.tickets.flatMap Ticket.players

def addTicket (m : Match) (t : Ticket) : Match := { m with tickets := m.tickets ++ [t] }

def assign (m : Match) (a : Assignment) : Match := { m with assignment := some a }

end Match

end Matchmaking
