import Matchmaking.Allocation.Response

/-!
# The allocation document

Request and answer of the allocation service share one document. A request fills in what is wanted:
servers of the fleet, those already allocated with room left first, then ready ones. An answer fills
in the status.
-/

namespace Matchmaking.Allocation

open Json

/-- The room that a server must have for players. -/
structure PlayerRange where
  least : Int64
  most : Int64
  deriving DecidableEq

/-- Which servers will do. -/
structure Selector where
  labels : Labels
  serverState : String
  players : PlayerRange
  deriving DecidableEq

/-- Labels and annotations of an object. -/
structure Metadata where
  labels : Labels
  annotations : Labels
  deriving DecidableEq

/-- What is wanted: the selectors in order of preference, and what the server is marked with. -/
structure Spec where
  selectors : List Selector
  metadata : Metadata
  deriving DecidableEq

/-- What became of a request. -/
structure Status where
  state : Option State
  server : String
  address : String
  ports : List ServerPort
  metadata : Metadata
  deriving DecidableEq

/-- The document that is sent and answered. -/
structure Document where
  apiVersion : String
  kind : String
  spec : Option Spec
  status : Option Status
  deriving DecidableEq

def Metadata.empty : Metadata := ⟨.empty, .empty⟩

/-- The status that a document without one is taken to have. -/
def Status.empty : Status := ⟨none, "", "", [], .empty⟩

/-! ## Written form -/

def PlayerRange.toJson (p : PlayerRange) : Value :=
  .object [("minAvailable", .integer p.least.toInt), ("maxAvailable", .integer p.most.toInt)]

def Selector.toJson (s : Selector) : Value :=
  .object [
    ("matchLabels", s.labels.toJson),
    ("gameServerState", .text s.serverState),
    ("players", s.players.toJson)]

def Metadata.toJson (m : Metadata) : Value :=
  .object [("labels", m.labels.toJson), ("annotations", m.annotations.toJson)]

def Spec.toJson (s : Spec) : Value :=
  .object [("selectors", .ofList Selector.toJson s.selectors), ("metadata", s.metadata.toJson)]

def Status.toJson (s : Status) : Value :=
  .object [
    ("state", (s.state.map State.toJson).getD .null),
    ("gameServerName", .text s.server),
    ("address", .text s.address),
    ("ports", .ofList ServerPort.toJson s.ports),
    ("metadata", s.metadata.toJson)]

def Document.toJson (d : Document) : Value :=
  .object ([("apiVersion", .text d.apiVersion), ("kind", .text d.kind)] ++
    Value.optional "spec" Spec.toJson d.spec ++
    Value.optional "status" Status.toJson d.status)

/-! ## Readers -/

def PlayerRange.fields : Fields [Int64, Int64] :=
  .cons (.required "minAvailable" Reader.int64) <|
  .cons (.required "maxAvailable" Reader.int64) .nil

def PlayerRange.reader : Reader PlayerRange := do
  let (least, most, ()) ← Reader.record "PlayerSelector" PlayerRange.fields
  return { least, most }

def Selector.fields : Fields [Labels, String, PlayerRange] :=
  .cons (.required "matchLabels" Labels.reader) <|
  .cons (.required "gameServerState" Reader.text) <|
  .cons (.required "players" PlayerRange.reader) .nil

def Selector.reader : Reader Selector := do
  let (labels, serverState, players, ()) ← Reader.record "GameServerSelector" Selector.fields
  return { labels, serverState, players }

def Metadata.fields : Fields [Labels, Labels] :=
  .cons (.defaulted "labels" Labels.reader .empty) <|
  .cons (.defaulted "annotations" Labels.reader .empty) .nil

def Metadata.reader : Reader Metadata := do
  let (labels, annotations, ()) ← Reader.record "ObjectMeta" Metadata.fields
  return { labels, annotations }

def Spec.fields : Fields [List Selector, Metadata] :=
  .cons (.required "selectors" (Reader.list Selector.reader)) <|
  .cons (.required "metadata" Metadata.reader) .nil

def Spec.reader : Reader Spec := do
  let (selectors, metadata, ()) ← Reader.record "AllocationSpec" Spec.fields
  return { selectors, metadata }

def Status.fields : Fields [Option State, String, String, List ServerPort, Metadata] :=
  .cons (.optional "state" State.reader) <|
  .cons (.defaulted "gameServerName" Reader.text "") <|
  .cons (.defaulted "address" Reader.text "") <|
  .cons (.defaulted "ports" (Reader.list ServerPort.reader) []) <|
  .cons (.defaulted "metadata" Metadata.reader .empty) .nil

def Status.reader : Reader Status := do
  let (state, server, address, ports, metadata, ()) ←
    Reader.record "AllocationStatus" Status.fields
  return { state, server, address, ports, metadata }

def Document.fields : Fields [String, String, Option Spec, Option Status] :=
  .cons (.defaulted "apiVersion" Reader.text "") <|
  .cons (.defaulted "kind" Reader.text "") <|
  .cons (.optional "spec" Spec.reader) <|
  .cons (.optional "status" Status.reader) .nil

def Document.reader : Reader Document := do
  let (apiVersion, kind, spec, status, ()) ←
    Reader.record "GameServerAllocation" Document.fields
  return { apiVersion, kind, spec, status }

/-! ## Requests and answers -/

/-- The label that names the fleet of a server. -/
def fleetLabel : String := "agones.dev/fleet"

/-- The annotation that marks a server with the match it is for. -/
def matchAnnotation : String := "matchforge.dev/match-id"

/-- The selector of servers of a fleet in a state, with room for so many players or more. -/
def Selector.forState (r : Request) (serverState : String) : Selector where
  labels := .single fleetLabel r.fleet
  serverState
  players := ⟨Int64.ofNat r.players.toNat, Int64.maxValue⟩

/-- The document that asks for a server. -/
def Document.ofRequest (r : Request) : Document where
  apiVersion := "allocation.agones.dev/v1"
  kind := "GameServerAllocation"
  spec := some {
    selectors := [Selector.forState r "Allocated", Selector.forState r "Ready"]
    metadata := ⟨.empty, .single matchAnnotation r.matchId.text⟩ }
  status := none

/-- The answer that a document gives: its status, whatever it says about what was wanted. -/
def Document.response (d : Document) : Response :=
  let status := d.status.getD .empty
  { state := status.state
    server := status.server
    address := status.address
    ports := status.ports
    annotations := status.metadata.annotations }

end Matchmaking.Allocation
