import Matchmaking.Announcement.Basic
import Matchmaking.Net.Client

/-!
# Announcing on a message bus

A match is announced by sending its envelope to the bus. The bus has only to take it: what it says
on success is not read.
-/

namespace Matchmaking

open Net Text

/-- A message bus, by the locator that envelopes are sent to. -/
structure MessageBus where
  url : String
  deriving DecidableEq

namespace MessageBus

def verdict (outcome : Except ClientError Reply) : Verdict :=
  match outcome with
  | .error e => some (.transport e.message)
  | .ok reply =>
    if reply.status.isSuccess then none
    else
      let body := (reply.body.map lossy).getD ""
      some (.transport s!"message bus returned {reply.status.text}: {body}")

def exchange (b : MessageBus) (server : Server) (e : Envelope Match) : Exchange :=
  post server b.url "application/json" (e.encode Match.toJson)

def deliveredTrace (e : Envelope Match) : Trace :=
  .line .debug "Published match.created" [
    ("match_id", .text e.payload.id.text),
    ("message_id", .text e.id.text)]

/-- How delivering an envelope went, with what arrived at the bus. -/
structure Delivery where
  verdict : Verdict
  trace : Trace
  received : List Received

def deliver (b : MessageBus) (server : Server) (e : Envelope Match) : Delivery :=
  let x := b.exchange server e
  match verdict x.outcome with
  | none => ⟨none, deliveredTrace e, x.received⟩
  | some why => ⟨some why, [], x.received⟩

end MessageBus

end Matchmaking
