import Matchmaking.Intake.MediaType
import Matchmaking.Intake.Problem
import Matchmaking.Net.Target
import Matchmaking.Scheduler.Tick

/-!
# The interface to clients

Players are queued one by one; three further routes tell whether the service is well. A request to
queue either changes the queue as a whole or is refused with a problem document and changes nothing.
-/

namespace Matchmaking.Intake

open Json Net Time

structure ApiRequest where
  method : String
  /-- What is asked for: a path, with or without what may stand around it. -/
  target : String
  mediaType : Option String
  body : List UInt8
  deriving DecidableEq

structure ApiResponse where
  status : Status
  mediaType : Option String
  /-- The methods that the route has, for a method that it does not have. -/
  allowed : Option String
  body : String
  deriving DecidableEq

namespace ApiResponse

/-- An answer that its status says all about. -/
def bare (code : Nat) : ApiResponse := ⟨⟨code⟩, none, none, ""⟩

def document (v : Value) : ApiResponse := ⟨⟨200⟩, some "application/json", none, v.render⟩

def problem (p : Problem) : ApiResponse :=
  ⟨p.status, some Problem.mediaType, none, p.toJson.render⟩

/-- An answer to a method that the route does not have. -/
def notAllowed (methods : String) : ApiResponse := ⟨⟨405⟩, none, some methods, ""⟩

end ApiResponse

/-! ## Queueing -/

/-- The most bytes that a body may have. -/
def bodyLimit : Nat := 2097152

def intentFields : Fields [PlayerId, Bool] :=
  .cons (.required "player_id" PlayerId.reader) <|
  .cons (.defaulted "auto_teleport" Reader.flag false) .nil

def intentReader : Reader Intent := do
  let (player, autoTeleport, ()) ← Reader.record "QueuePlayerRequest" intentFields
  return { player, autoTeleport }

def acceptsMediaType (mediaType : Option String) : Bool :=
  (mediaType.bind MediaType.parse?).any MediaType.isJson

/-- The wish that a request states. The media type is judged first, then the size, then the body. -/
def readIntent (mediaType : Option String) (body : List UInt8) : Except Problem Intent :=
  if !acceptsMediaType mediaType then
    .error (.badRequest "invalid_json"
      "Expected request with \x60Content-Type: application/json\x60")
  else if bodyLimit < body.length then
    .error (.badRequest "invalid_json"
      "Failed to buffer the request body: length limit exceeded")
  else match intentReader.run body with
    | .ok i => .ok i
    | .error why =>
      if why.fault.isContent then
        .error (.unprocessable "invalid_request"
          ("Failed to deserialize the JSON body into the target type: " ++ why.located))
      else
        .error (.badRequest "invalid_json"
          ("Failed to parse the request body as JSON: " ++ why.located))

def queueTrace (gameMode : String) (i : Intent) : Trace :=
  .line .debug "Queueing player" [
    ("player_id", .text i.player.text),
    ("auto_teleport", .flag i.autoTeleport),
    ("game_mode_id", .text gameMode)]

/-- Answers a request to queue a player. -/
def queuePlayer (s : Scheduler) (mediaType : Option String) (body : List UInt8) :
    Scheduler × ApiResponse × Trace :=
  match readIntent mediaType body with
  | .error p => (s, .problem p, [])
  | .ok i => (s.submit i, .bare 202, queueTrace s.settings.gameMode i)

/-! ## Health -/

def serviceVersion : String := "0.1.0"

def healthDocument (now : Timestamp) : Value :=
  .object [
    ("status", .text "ok"),
    ("service", .text "matchmaker"),
    ("version", .text serviceVersion),
    ("timestamp", .text now.offsetText)]

/-- The document that says how the service is doing. -/
def readinessDocument (s : Scheduler) : Value :=
  .object ([
    ("status", .text "ok"),
    ("game_mode_id", .text s.settings.gameMode),
    ("queued_players", .integer s.queue.size)] ++
    Value.optional "last_tick" TickStats.toJson s.lastTick)

/-! ## Routes -/

/-- What a client can ask for. -/
inductive Route where
  | queue
  | health
  | readiness
  | liveness
  deriving DecidableEq, Repr

def Route.ofPath? (path : String) : Option Route :=
  if path = "/v1/queue" then some .queue
  else if path = "/healthz" then some .health
  else if path = "/readyz" then some .readiness
  else if path = "/livez" then some .liveness
  else none

/-- The route that a request asks for: the path counts, and not what stands around it. -/
def Route.ofTarget? (target : String) : Option Route :=
  (Target.parse? target).bind fun t => Route.ofPath? t.pathText

/-- Answers a look-up on a route that only tells something. -/
def lookUp (r : Route) (s : Scheduler) (now : Timestamp) : ApiResponse :=
  match r with
  | .health => .document (healthDocument now)
  | .readiness => .document (readinessDocument s)
  | _ => .bare 200

def handle (s : Scheduler) (now : Timestamp) (r : ApiRequest) : Scheduler × ApiResponse × Trace :=
  match Route.ofTarget? r.target with
  | none => (s, .bare 404, [])
  | some .queue =>
    if r.method = "POST" then queuePlayer s r.mediaType r.body
    else (s, .notAllowed "POST", [])
  | some route =>
    if r.method = "GET" then (s, lookUp route s now, [])
    else if r.method = "HEAD" then (s, { lookUp route s now with body := "" }, [])
    else (s, .notAllowed "GET,HEAD", [])

end Matchmaking.Intake
