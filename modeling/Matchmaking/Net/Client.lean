import Matchmaking.Net.Status
import Matchmaking.Net.Target
import Matchmaking.Net.Url.Reader

/-!
# Sending documents

A document is sent to a locator and an answer is waited for; an answer that names another place is
followed there. The servers that could answer are data: one address with the answers that it gives
to connections in turn. No other address takes connections.
-/

namespace Matchmaking.Net

open Text

/-- A request as it arrives at a server. -/
structure Received where
  method : String
  target : String
  mediaType : Option String
  body : List UInt8
  deriving DecidableEq

/-- An answer to a request. -/
structure Reply where
  status : Status
  /-- The body; nothing if it was cut off. -/
  body : Option (List UInt8)
  deriving DecidableEq

/-- What a server does with a request that has arrived. -/
inductive Answer where
  /-- It closes the connection, or is silent for too long. -/
  | none
  | reply (status : Status) (location : Option String) (body : Option (List UInt8))

/-- A server: its address, and its answers to connections in turn. After those it takes no more. -/
structure Server where
  /-- The address with its port. -/
  place : String
  answers : List Answer

/-- Why a request got no answer. -/
inductive ClientError where
  /-- The text is not a locator. -/
  | invalidUrl
  /-- The locator does not name anything that can be asked. -/
  | unsupportedUrl (url : String)
  /-- No answer came. -/
  | unanswered (url : String)
  /-- Answers kept naming other places. -/
  | tooManyRedirects (url : String)
  deriving DecidableEq, Repr

def ClientError.message : ClientError → String
  | .invalidUrl => "builder error"
  | .unsupportedUrl url => s!"builder error for url ({url})"
  | .unanswered url => s!"error sending request for url ({url})"
  | .tooManyRedirects url => s!"error following redirect for url ({url})"

/-- What arrived at the server and what came back in the end. -/
structure Exchange where
  received : List Received
  outcome : Except ClientError Reply

/-- How often an answer that names another place is followed. -/
def redirectLimit : Nat := 10

def Url.isAskable (u : Url) : Bool := u.scheme == "http" || u.scheme == "https"

/-- The request that follows an answer which names another place. -/
def Status.Redirect.apply (r : Status.Redirect) (request : Received) : Received :=
  match r with
  | .again => request
  | .lookUp =>
    { request with
      method := if request.method = "HEAD" then "HEAD" else "GET"
      mediaType := none
      body := [] }

/-- Whether a text can be the value of a header: a tab is the one control that it may hold. -/
def isHeaderValue (s : String) : Bool :=
  s.toList.all fun c => c == '\t' || (0x20 ≤ c.toNat && c.toNat ≠ 0x7F)

/-- Whether an answer can be read and is the last one to its request. -/
def isFinal (status : Status) (location : Option String) : Bool :=
  status.isReadable && !status.isInterim && location.all isHeaderValue

/-- Where an answer says to ask instead, and how: a place that a request line can name. -/
def elsewhere? (here : Url) (status : Status) (location : Option String) :
    Option (Url × Status.Redirect) := do
  let way ← status.redirect?
  let target ← Target.parse? (← here.join? (← location)).text
  return (← Url.parse? target.text, way)

def replyOf (status : Status) (body : Option (List UInt8)) : Reply :=
  ⟨status, if status.carriesBody then body else some []⟩

/-- Sends a request to a locator, following at most `left` more answers. A failure to get an answer
is told with the locator that the first request went to. -/
def send (place : String) (first : Url) :
    (left : Nat) → (here : Url) → Received → List Answer → Exchange
  | left, here, request, answers =>
    let request := { request with target := here.target }
    let silent := Except.error (.unanswered first.text)
    if here.scheme ≠ "http" ∨ here.authority.map Authority.place ≠ some place then ⟨[], silent⟩
    else match answers with
      | [] => ⟨[], silent⟩
      | .none :: _ => ⟨[request], silent⟩
      | .reply status location body :: rest =>
        if !isFinal status location then ⟨[request], silent⟩
        else match elsewhere? here status location with
          | none => ⟨[request], .ok (replyOf status body)⟩
          | some (there, way) =>
            match left with
            | 0 => ⟨[request], .error (.tooManyRedirects here.text)⟩
            | left + 1 =>
              if there.isAskable then
                let later := send place first left there (way.apply request) rest
                { later with received := request :: later.received }
              else ⟨[request], .error (.unsupportedUrl there.text)⟩

/-- Whether credentials can be shown to a server in a header: as text, and not empty. -/
def Credentials.isShowable (c : Credentials) : Bool :=
  match Percent.decodeText? c.name.toList with
  | none => false
  | some name => name ≠ "" || c.password.any fun p => (Percent.decodeText? p.toList).isSome

/-- The locator that is asked when a text locates something: credentials that go into a header are
left out. -/
def Url.asked (u : Url) : Url :=
  if (u.authority.bind (·.credentials)).any Credentials.isShowable then u.anonymous else u

/-- Sends a document of a media type to what a text locates. -/
def post (server : Server) (url mediaType : String) (body : List UInt8) : Exchange :=
  match Url.parse? url with
  | none => ⟨[], .error .invalidUrl⟩
  | some u =>
    let u := u.asked
    if u.hasHost ∧ u.isAskable ∧ (Target.parse? u.text).isSome then
      let request : Received := ⟨"POST", u.target, some mediaType, body⟩
      send server.place u redirectLimit u request server.answers
    else ⟨[], .error (.unsupportedUrl u.text)⟩

end Matchmaking.Net
