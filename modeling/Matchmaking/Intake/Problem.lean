import Matchmaking.Json.Value
import Matchmaking.Net.Status

/-!
# Problem documents

How a refusal is explained to the client: a document of fixed shape with a code that programs can
tell apart.
-/

namespace Matchmaking.Intake

open Net Json

structure Problem where
  status : Status
  code : String
  detail : String
  deriving DecidableEq

namespace Problem

/-- The request as such cannot be understood. -/
def badRequest (code detail : String) : Problem := ⟨⟨400⟩, code, detail⟩

/-- The request is understood and cannot be followed. -/
def unprocessable (code detail : String) : Problem := ⟨⟨422⟩, code, detail⟩

def title (p : Problem) : String := p.status.phrase?.getD "Unknown Error"

def toJson (p : Problem) : Value :=
  .object [
    ("type", .text s!"about:blank#{p.code}"),
    ("title", .text p.title),
    ("status", .integer p.status.code),
    ("detail", .text p.detail),
    ("code", .text p.code)]

def mediaType : String := "application/problem+json"

end Problem

end Matchmaking.Intake
