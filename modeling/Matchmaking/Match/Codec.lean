import Matchmaking.Json.Record
import Matchmaking.Json.Value
import Matchmaking.Match.Basic

/-!
# Matches as documents

The written form of identifiers, timestamps, tickets, assignments and matches, and their readers.
Members are written in the order of the fields; those with nothing to say are left out.
-/

namespace Matchmaking

open Json Time

def Id.toJson {kind : IdKind} (id : Id kind) : Value := .text id.text

def Id.reader {kind : IdKind} : Reader (Id kind) :=
  Reader.named "a string" fun s => (Id.parse s).mapError IdError.message

def PlayerId.toJson (id : PlayerId) : Value := .text id.text

/-- Reads a player's identifier; an empty text is refused by the rules of the value. -/
def PlayerId.reader : Reader PlayerId :=
  Reader.named "a formatted UUID string" fun s =>
    match Uuid.decode s with
    | .ok value => .ok ⟨value⟩
    | .error why => .error s!"UUID parsing failed: {why.message}"

def Time.Timestamp.toJson (t : Timestamp) : Value := .text t.text

def Time.Timestamp.reader : Reader Timestamp :=
  Reader.named "an RFC 3339 formatted date and time string" fun s =>
    (Timestamp.parse s).mapError TimestampError.message

namespace Ticket

def toJson (t : Ticket) : Value :=
  .object [
    ("player_ids", .ofList PlayerId.toJson t.players),
    ("created_at", t.createdAt.toJson),
    ("game_mode_id", .text t.gameMode),
    ("auto_teleport", .flag t.autoTeleport),
    ("dequeue_on_disconnect", .flag t.dequeueOnDisconnect),
    ("in_pending_match", .flag t.inPendingMatch)]

def fields : Fields [List PlayerId, Timestamp, String, Bool, Bool, Bool] :=
  .cons (.required "player_ids" (Reader.list PlayerId.reader)) <|
  .cons (.required "created_at" Timestamp.reader) <|
  .cons (.required "game_mode_id" Reader.text) <|
  .cons (.required "auto_teleport" Reader.flag) <|
  .cons (.required "dequeue_on_disconnect" Reader.flag) <|
  .cons (.required "in_pending_match" Reader.flag) .nil

def reader : Reader Ticket := do
  let (players, createdAt, gameMode, autoTeleport, dequeueOnDisconnect, inPendingMatch, ()) ←
    Reader.record "Ticket" fields
  return { players, createdAt, gameMode, autoTeleport, dequeueOnDisconnect, inPendingMatch }

end Ticket

namespace Assignment

def toJson (a : Assignment) : Value :=
  .object ([
    ("server_id", .text a.server),
    ("server_address", .text a.address),
    ("server_port", .integer a.port.toNat)] ++
    Value.optional "protocol_version" (fun v => .integer v.toInt) a.protocolVersion ++
    Value.optional "version_name" .text a.versionName)

def fields : Fields [String, String, UInt16, Option Int64, Option String] :=
  .cons (.required "server_id" Reader.text) <|
  .cons (.required "server_address" Reader.text) <|
  .cons (.required "server_port" Reader.uint16) <|
  .cons (.optional "protocol_version" Reader.int64) <|
  .cons (.optional "version_name" Reader.text) .nil

def reader : Reader Assignment := do
  let (server, address, port, protocolVersion, versionName, ()) ←
    Reader.record "Assignment" fields
  return { server, address, port, protocolVersion, versionName }

end Assignment

namespace Match

def toJson (m : Match) : Value :=
  .object ([
    ("id", m.id.toJson),
    ("game_mode_id", .text m.gameMode)] ++
    Value.optional "map_id" .text m.map ++
    [("tickets", .ofList Ticket.toJson m.tickets)] ++
    Value.optional "assignment" Assignment.toJson m.assignment)

def fields : Fields [MatchId, String, Option String, List Ticket, Option Assignment] :=
  .cons (.required "id" Id.reader) <|
  .cons (.required "game_mode_id" Reader.text) <|
  .cons (.optional "map_id" Reader.text) <|
  .cons (.required "tickets" (Reader.list Ticket.reader)) <|
  .cons (.optional "assignment" Assignment.reader) .nil

def reader : Reader Match := do
  let (id, gameMode, map, tickets, assignment, ()) ← Reader.record "Match" fields
  return { id, gameMode, map, tickets, assignment }

end Match

end Matchmaking
