import Matchmaking.Match.Codec
import Matchmaking.Proofs.Json.Record

/-!
# Which objects are tickets, assignments and matches

An object is read as a ticket, an assignment or a match just if its members tell each part, whatever
else they tell.
-/

namespace Matchmaking

open Json Json.Reader Time

theorem Id.reader_decides {kind : IdKind} : Decides (Id.reader : Reader (Id kind)) := named_decides

theorem PlayerId.reader_decides : PlayerId.reader.Decides := named_decides

theorem Time.Timestamp.reader_decides : Timestamp.reader.Decides := named_decides

namespace Ticket

/-- What the members of an object tell of a ticket. -/
@[mk_iff] structure Told (ms : List Member) (t : Ticket) : Prop where
  players : Tells ms "player_ids" (Reader.list PlayerId.reader) t.players
  createdAt : Tells ms "created_at" Timestamp.reader t.createdAt
  gameMode : Tells ms "game_mode_id" Reader.text t.gameMode
  autoTeleport : Tells ms "auto_teleport" Reader.flag t.autoTeleport
  dequeueOnDisconnect : Tells ms "dequeue_on_disconnect" Reader.flag t.dequeueOnDisconnect
  inPendingMatch : Tells ms "in_pending_match" Reader.flag t.inPendingMatch

theorem fields_decides : fields.Decides :=
  ⟨PlayerId.reader_decides.list, Timestamp.reader_decides, text_decides, flag_decides, flag_decides,
    flag_decides, trivial⟩

theorem fields_distinct : fields.names.Nodup := by decide

private def make : Values [List PlayerId, Timestamp, String, Bool, Bool, Bool] → Ticket
  | (players, createdAt, gameMode, autoTeleport, dequeueOnDisconnect, inPendingMatch, ()) =>
    { players, createdAt, gameMode, autoTeleport, dequeueOnDisconnect, inPendingMatch }

private def parts (t : Ticket) : Values [List PlayerId, Timestamp, String, Bool, Bool, Bool] :=
  (t.players, t.createdAt, t.gameMode, t.autoTeleport, t.dequeueOnDisconnect, t.inPendingMatch, ())

theorem reader_decides : reader.Decides :=
  (record_decides fields_decides fields_distinct).map make

theorem reads_iff_assigns {o : ObjectText} {t : Ticket} :
    reader.Reads o.bytes t ↔ fields.Assigns o.members (parts t) :=
  reads_made_iff make parts fields_decides fields_distinct (fun _ => rfl) fun _ => rfl

theorem reads_iff {o : ObjectText} {t : Ticket} : reader.Reads o.bytes t ↔ Told o.members t := by
  rw [reads_iff_assigns, told_iff]
  exact and_congr (assigns_required_iff PlayerId.reader_decides.list o.values) <|
    and_congr (assigns_required_iff Timestamp.reader_decides o.values) <|
    and_congr (assigns_required_iff text_decides o.values) <|
    and_congr (assigns_required_iff flag_decides o.values) <|
    and_congr (assigns_required_iff flag_decides o.values) <|
    (and_iff_left trivial).trans (assigns_required_iff flag_decides o.values)

end Ticket

namespace Assignment

@[mk_iff] structure Told (ms : List Member) (a : Assignment) : Prop where
  server : Tells ms "server_id" Reader.text a.server
  address : Tells ms "server_address" Reader.text a.address
  port : Tells ms "server_port" Reader.uint16 a.port
  protocolVersion : MayTell ms "protocol_version" Reader.int64 a.protocolVersion
  versionName : MayTell ms "version_name" Reader.text a.versionName

theorem fields_decides : fields.Decides :=
  ⟨text_decides, text_decides, uint16_decides, int64_decides.optional, text_decides.optional,
    trivial⟩

theorem fields_distinct : fields.names.Nodup := by decide

private def make : Values [String, String, UInt16, Option Int64, Option String] → Assignment
  | (server, address, port, protocolVersion, versionName, ()) =>
    { server, address, port, protocolVersion, versionName }

private def parts (a : Assignment) : Values [String, String, UInt16, Option Int64, Option String] :=
  (a.server, a.address, a.port, a.protocolVersion, a.versionName, ())

theorem reader_decides : reader.Decides :=
  (record_decides fields_decides fields_distinct).map make

theorem reads_iff_assigns {o : ObjectText} {a : Assignment} :
    reader.Reads o.bytes a ↔ fields.Assigns o.members (parts a) :=
  reads_made_iff make parts fields_decides fields_distinct (fun _ => rfl) fun _ => rfl

theorem reads_iff {o : ObjectText} {a : Assignment} :
    reader.Reads o.bytes a ↔ Told o.members a := by
  rw [reads_iff_assigns, told_iff]
  exact and_congr (assigns_required_iff text_decides o.values) <|
    and_congr (assigns_required_iff text_decides o.values) <|
    and_congr (assigns_required_iff uint16_decides o.values) <|
    and_congr (assigns_optional_iff int64_decides o.values) <|
    (and_iff_left trivial).trans (assigns_optional_iff text_decides o.values)

end Assignment

namespace Match

@[mk_iff] structure Told (ms : List Member) (m : Match) : Prop where
  id : Tells ms "id" Id.reader m.id
  gameMode : Tells ms "game_mode_id" Reader.text m.gameMode
  map : MayTell ms "map_id" Reader.text m.map
  tickets : Tells ms "tickets" (Reader.list Ticket.reader) m.tickets
  assignment : MayTell ms "assignment" Assignment.reader m.assignment

theorem fields_decides : fields.Decides :=
  ⟨Id.reader_decides, text_decides, text_decides.optional, Ticket.reader_decides.list,
    Assignment.reader_decides.optional, trivial⟩

theorem fields_distinct : fields.names.Nodup := by decide

private def make :
    Values [MatchId, String, Option String, List Ticket, Option Assignment] → Match
  | (id, gameMode, map, tickets, assignment, ()) => { id, gameMode, map, tickets, assignment }

private def parts (m : Match) :
    Values [MatchId, String, Option String, List Ticket, Option Assignment] :=
  (m.id, m.gameMode, m.map, m.tickets, m.assignment, ())

theorem reader_decides : reader.Decides :=
  (record_decides fields_decides fields_distinct).map make

theorem reads_iff_assigns {o : ObjectText} {m : Match} :
    reader.Reads o.bytes m ↔ fields.Assigns o.members (parts m) :=
  reads_made_iff make parts fields_decides fields_distinct (fun _ => rfl) fun _ => rfl

theorem reads_iff {o : ObjectText} {m : Match} : reader.Reads o.bytes m ↔ Told o.members m := by
  rw [reads_iff_assigns, told_iff]
  exact and_congr (assigns_required_iff Id.reader_decides o.values) <|
    and_congr (assigns_required_iff text_decides o.values) <|
    and_congr (assigns_optional_iff text_decides o.values) <|
    and_congr (assigns_required_iff Ticket.reader_decides.list o.values) <|
    (and_iff_left trivial).trans (assigns_optional_iff Assignment.reader_decides o.values)

end Match

end Matchmaking
