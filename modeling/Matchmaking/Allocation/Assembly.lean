import Matchmaking.Queue.Basic
import Matchmaking.Trace.Log

/-!
# Putting matches together

Drained wishes are cut into batches of equal size, in order; only the last batch may be short. Each
batch becomes a match with one ticket for each player, and a request for a server.
-/

namespace Matchmaking

open Time Allocation

/-- A list cut into pieces of `size`, at most `count` of them. -/
def piecesWithin {α : Type} (size : Nat) : (count : Nat) → List α → List (List α)
  | 0, _ => []
  | _ + 1, [] => []
  | count + 1, x :: xs => (x :: xs).take size :: piecesWithin size count ((x :: xs).drop size)

/-- A list cut into pieces of `size`; the last may be shorter. -/
def pieces {α : Type} (size : Nat) (xs : List α) : List (List α) := piecesWithin size xs.length xs

/-- A match and the request that is to place it. -/
structure PendingMatch where
  game : Match
  request : Request
  deriving DecidableEq

/-- How matches are put together. -/
structure Assembler where
  fleet : String
  gameMode : String
  playersPerMatch : Nat
  playersPerMatch_pos : 0 < playersPerMatch

namespace Assembler

/-- An assembler for matches of the given size; a size of zero counts as one. -/
def new (fleet gameMode : String) (playersPerMatch : Nat) : Assembler where
  fleet
  gameMode
  playersPerMatch := max playersPerMatch 1
  playersPerMatch_pos := by omega

def build (a : Assembler) (id : MatchId) (now : Timestamp) (batch : List Intent) : Match :=
  { Match.new id a.gameMode with
    tickets := batch.map fun i => Ticket.forPlayer i.player a.gameMode i.autoTeleport now }

def pend (a : Assembler) (m : Match) : PendingMatch := ⟨m, .forMatch a.fleet m⟩

/-- The matches of drained wishes. `fresh` names the matches in the order in which they are made,
and `made` of them have been. -/
def assemble (a : Assembler) (fresh : Nat → MatchId) (made : Nat) (now : Timestamp)
    (is : List Intent) : List PendingMatch :=
  (pieces a.playersPerMatch is).zipIdx.map fun (batch, k) =>
    a.pend (a.build (fresh (made + k)) now batch)

/-- What assembly logs: nothing if nobody waits. -/
def assembleTrace (a : Assembler) (is : List Intent) (pending : List PendingMatch) : Trace :=
  if is.isEmpty then []
  else .line .info "Created matches from players" [
    ("match_count", .number pending.length),
    ("player_count", .number is.length),
    ("players_per_match", .number a.playersPerMatch)]

end Assembler

/-- The wishes that the players of matches were drained with. -/
def intentsOf (ms : List Match) : List Intent :=
  ms.flatMap fun m => m.tickets.flatMap fun t => t.players.map fun p => ⟨p, t.autoTeleport⟩

end Matchmaking
