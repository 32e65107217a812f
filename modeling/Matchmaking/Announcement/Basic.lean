import Matchmaking.Event.Envelope
import Matchmaking.Trace.Log

/-!
# Announcing matches

A match with a server is announced to whoever moves the players. Delivery is tried once.
-/

namespace Matchmaking

def announcementProducer : String := "matchmaker"

inductive NotifyError where
  /-- The message could not be written. -/
  | encode (why : EnvelopeError)
  /-- The message bus was not reached, or refused the message. -/
  | transport (why : String)

def NotifyError.message : NotifyError → String
  | .encode why => s!"failed to encode message: {why.message}"
  | .transport why => s!"message bus request failed: {why}"

/-- How an announcement went. -/
abbrev Verdict := Option NotifyError

/-- The announcement that only goes to the log. -/
def logAnnouncement (m : Match) : Trace :=
  let a := m.assignment
  .line .info "Match created" [
    ("match_id", .text m.id.text),
    ("game_mode_id", .text m.gameMode),
    ("players", .number m.ticketCount),
    ("server_id", .text ((a.map Assignment.server).getD "")),
    ("address", .text ((a.map Assignment.address).getD "")),
    ("port", .number ((a.map fun a => a.port.toNat).getD 0))]

end Matchmaking
