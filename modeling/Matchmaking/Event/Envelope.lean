import Matchmaking.Match.Codec

/-!
# Message envelopes

Everything that is published travels in an envelope that names the kind and version of its payload.
A consumer opens an envelope only if it carries the kind it wants, in a version it knows.
-/

namespace Matchmaking

open Json Time

/-- A payload with what a consumer needs to know before looking at it. -/
structure Envelope (α : Type) where
  id : MessageId
  occurredAt : Timestamp
  kind : String
  version : Int32
  producer : String
  /-- Groups related messages. -/
  correlation : Option String
  payload : α
  deriving DecidableEq

inductive EnvelopeError where
  | unexpectedKind (expected found : String)
  | unsupportedVersion (kind : String) (version : Int32)
  | malformed (why : Failure)

def EnvelopeError.message : EnvelopeError → String
  | .unexpectedKind expected found => s!"unexpected message type: expected {expected}, got {found}"
  | .unsupportedVersion kind version => s!"unsupported message version: {kind} v{version.toInt}"
  | .malformed why => s!"serialization error: {why.fault.message}"

namespace Envelope

variable {α : Type}

def toJson (encode : α → Value) (e : Envelope α) : Value :=
  .object ([
    ("message_id", e.id.toJson),
    ("occurred_at", e.occurredAt.toJson),
    ("message_type", .text e.kind),
    ("message_version", .integer e.version.toInt),
    ("producer", .text e.producer)] ++
    Value.optional "correlation_id" .text e.correlation ++
    [("payload", encode e.payload)])

def fields (payload : Reader α) :
    Fields [MessageId, Timestamp, String, Int32, String, Option String, α] :=
  .cons (.required "message_id" Id.reader) <|
  .cons (.required "occurred_at" Timestamp.reader) <|
  .cons (.required "message_type" Reader.text) <|
  .cons (.required "message_version" Reader.int32) <|
  .cons (.required "producer" Reader.text) <|
  .cons (.optional "correlation_id" Reader.text) <|
  .cons (.required "payload" payload) .nil

def reader (payload : Reader α) : Reader (Envelope α) := do
  let (id, occurredAt, kind, version, producer, correlation, payload, ()) ←
    Reader.record "MessageEnvelope" (fields payload)
  return { id, occurredAt, kind, version, producer, correlation, payload }

/-- Opens an envelope of the expected kind, in a version up to `newest`. The kind is judged before
the version. -/
def decode (payload : Reader α) (expected : String) (newest : Int32) (bytes : List UInt8) :
    Except EnvelopeError (Envelope α) :=
  match (reader payload).run bytes with
  | .error why => .error (.malformed why)
  | .ok e =>
    if e.kind ≠ expected then .error (.unexpectedKind expected e.kind)
    else if newest < e.version then .error (.unsupportedVersion e.kind e.version)
    else .ok e

def encode (payload : α → Value) (e : Envelope α) : List UInt8 :=
  Text.bytes (e.toJson payload).render

end Envelope

def matchCreatedKind : String := "match.created"

def matchCreatedVersion : Int32 := 1

/-- The envelope that announces a match; the match's identifier groups it with what else is said
about the match. -/
def Envelope.matchCreated (id : MessageId) (now : Timestamp) (producer : String) (m : Match) :
    Envelope Match :=
  { id, occurredAt := now, kind := matchCreatedKind, version := matchCreatedVersion, producer,
    correlation := some m.id.text, payload := m }

end Matchmaking
