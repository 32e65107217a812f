import Matchmaking.Json.Labels
import Matchmaking.Json.Record
import Matchmaking.Match.Basic
import Matchmaking.Match.Codec
import Matchmaking.Number.Width
import Matchmaking.Text.Blank
import Matchmaking.Text.Numeral

/-!
# Asking for a server

What an allocator is asked for and how its answer is understood. An answer is an assignment only if
it reports a server with an address and a usable first port.
-/

namespace Matchmaking.Allocation

open Json Text Number

/-- What an allocator is asked for: room for so many players on a fleet, for a match. -/
structure Request where
  fleet : String
  matchId : MatchId
  players : UInt32
  deriving DecidableEq

/-- The request for a match, sized to its ticket count as far as 32 bits can say it. -/
def Request.forMatch (fleet : String) (m : Match) : Request :=
  ⟨fleet, m.id, UInt32.ofNat (min m.ticketCount mostUnsigned32)⟩

def Request.toJson (r : Request) : Value :=
  .object [
    ("fleet_name", .text r.fleet),
    ("match_id", r.matchId.toJson),
    ("player_count", .integer r.players.toNat)]

/-- The outcome that an allocator reports. -/
inductive State where
  | allocated
  | unallocated
  | contention
  | unknown
  deriving DecidableEq, Repr

def State.name : State → String
  | .allocated => "Allocated"
  | .unallocated => "UnAllocated"
  | .contention => "Contention"
  | .unknown => "Unknown"

/-- The outcome with a name; any other name is an unknown outcome. -/
def State.ofName (name : String) : State :=
  if name = "Allocated" then .allocated
  else if name = "UnAllocated" then .unallocated
  else if name = "Contention" then .contention
  else .unknown

@[simp] theorem State.ofName_name (s : State) : State.ofName s.name = s := by
  cases s <;> decide

def State.toJson (s : State) : Value := .text s.name

def State.reader : Reader State := Reader.choice State.ofName

structure ServerPort where
  name : String
  port : Int32
  deriving DecidableEq

def ServerPort.toJson (p : ServerPort) : Value :=
  .object [("name", .text p.name), ("port", .integer p.port.toInt)]

def ServerPort.fields : Fields [String, Int32] :=
  .cons (.defaulted "name" Reader.text "") <|
  .cons (.required "port" Reader.int32) .nil

def ServerPort.reader : Reader ServerPort := do
  let (name, port, ()) ← Reader.record "GameServerPort" ServerPort.fields
  return { name, port }

structure Response where
  state : Option State
  server : String
  address : String
  ports : List ServerPort
  annotations : Labels
  deriving DecidableEq

/-- Why a match got no server. -/
inductive Error where
  /-- The allocator was not reached, or refused to answer. -/
  | transport (why : String)
  /-- The allocator has no server to give. -/
  | notAllocated (state : State)
  /-- The answer does not name a usable server. -/
  | malformed (why : String)
  /-- The task that was to ask broke down. -/
  | taskFailed (why : String)
  deriving DecidableEq

def Error.message : Error → String
  | .transport why => s!"allocator request failed: {why}"
  | .notAllocated state => s!"allocation was not successful: {state.name}"
  | .malformed why => s!"malformed allocator response: {why}"
  | .taskFailed why => s!"allocation task failed: {why}"

/-- The annotation that tells which protocol version a server speaks. -/
def protocolVersionAnnotation : String := "agones.dev/sdk-emc-protocol-version"

/-- The annotation that names a server's build. -/
def versionNameAnnotation : String := "agones.dev/sdk-emc-version-name"

/-- The protocol version that a text denotes, blanks around it aside, if it denotes one. -/
def protocolVersion? (s : String) : Option Int64 :=
  match readInt mostSigned64 (trimChars s.toList) with
  | .ok n => some (Int64.ofInt n)
  | .error _ => none

/-- The number of a port that can be connected to. -/
def ServerPort.usable? (p : ServerPort) : Option UInt16 :=
  if 1 ≤ p.port.toInt ∧ p.port.toInt ≤ 65535 then some (UInt16.ofNat p.port.toInt.toNat) else none

/-- The assignment that an answer makes. Requirements are judged in the order state, address,
presence of a port, and port number; ports after the first never matter, and a protocol version
that is not a number counts as absent. -/
def Response.assignment (r : Response) : Except Error Assignment :=
  match r.state with
  | none => .error (.malformed "missing state")
  | some .allocated =>
    if r.address = "" then .error (.malformed "missing address")
    else match r.ports with
      | [] => .error (.malformed "missing port")
      | first :: _ =>
        match first.usable? with
        | none => .error (.malformed s!"invalid port {first.port.toInt}")
        | some port => .ok {
            server := r.server
            address := r.address
            port
            protocolVersion :=
              (r.annotations.get? protocolVersionAnnotation).bind protocolVersion?
            versionName := r.annotations.get? versionNameAnnotation }
  | some other => .error (.notAllocated other)

end Matchmaking.Allocation
