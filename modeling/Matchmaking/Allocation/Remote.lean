import Matchmaking.Allocation.Document
import Matchmaking.Json.Value
import Matchmaking.Net.Client
import Matchmaking.Trace.Log

/-!
# Servers from a fleet

An allocator asks an allocation service for a server, one document out and one back. Whatever goes
wrong on the way has a cause of its own: the service was not reached or refused, or its answer makes
no sense.
-/

namespace Matchmaking.Allocation

open Net Text

/-- An allocation service, by the locator that documents are sent to. -/
structure RemoteAllocator where
  url : String
  deriving DecidableEq

namespace RemoteAllocator

/-- The service with a base locator; slashes at its end do not matter. -/
def new (base : String) : RemoteAllocator :=
  ⟨String.ofList (base.toList.reverse.dropWhile (· = '/')).reverse ++ "/gameserverallocation"⟩

def requestBytes (r : Request) : List UInt8 := bytes (Document.ofRequest r).toJson.render

/-- The body of a refusal as text; one that was cut off counts as empty. -/
def refusalText (r : Reply) : String := (r.body.map lossy).getD ""

def interpret (outcome : Except ClientError Reply) : Except Error Response :=
  match outcome with
  | .error e => .error (.transport e.message)
  | .ok reply =>
    if reply.status.isSuccess then
      match reply.body.map Document.reader.run with
      | some (.ok d) => .ok d.response
      | _ => .error (.malformed "error decoding response body")
    else
      .error (.transport s!"allocator returned {reply.status.text}: {refusalText reply}")

def requestTrace (a : RemoteAllocator) (r : Request) : Trace :=
  .line .debug "Requesting game server allocation" [("url", .text a.url), ("fleet", .text r.fleet)]

/-- What an exchange logs: only a refusal does. -/
def refusalTrace (outcome : Except ClientError Reply) : Trace :=
  match outcome with
  | .ok reply =>
    if reply.status.isSuccess then []
    else .line .warn "Allocator rejected request" [
      ("status", .text reply.status.text),
      ("body", .text (refusalText reply))]
  | .error _ => []

def exchange (a : RemoteAllocator) (server : Server) (r : Request) : Exchange :=
  post server a.url "application/json" (requestBytes r)

def allocate (a : RemoteAllocator) (server : Server) (r : Request) :
    Except Error Response × Trace :=
  let outcome := (a.exchange server r).outcome
  (interpret outcome, a.requestTrace r ++ refusalTrace outcome)

end RemoteAllocator

end Matchmaking.Allocation
