import Matchmaking.Net.Host

/-!
# Locators

Where something is found on the network, and the one text of it. A locator names a scheme, and then
either an authority with a path on it or a path that says all.
-/

namespace Matchmaking.Net

open Text

/-- Who asks, as written in front of a host. -/
structure Credentials where
  name : String
  password : Option String
  deriving DecidableEq, Repr

/-- Whom to ask. -/
structure Authority where
  credentials : Option Credentials
  host : String
  /-- The port, if it is not the one that the scheme stands for. -/
  port : Option Nat
  deriving DecidableEq, Repr

def Credentials.text (c : Credentials) : String :=
  c.name ++ (c.password.map (":" ++ ·)).getD ""

def Authority.place (a : Authority) : String :=
  a.host ++ (a.port.map (":" ++ toString ·)).getD ""

def Authority.text (a : Authority) : String :=
  (a.credentials.map (·.text ++ "@")).getD "" ++ a.place

/-- A locator. -/
structure Url where
  scheme : String
  /-- Whom to ask; without it the path says all. -/
  authority : Option Authority
  path : String
  query : Option String
  fragment : Option String
  deriving DecidableEq, Repr

namespace Url

/-- The text between scheme and path. A path without an authority that starts with two slashes is
kept apart from the scheme by a dot, as its first two slashes would announce an authority. -/
def authorityText (u : Url) : String :=
  match u.authority with
  | some a => "//" ++ a.text
  | none => if u.path.startsWith "//" then "/." else ""

def text (u : Url) : String :=
  u.scheme ++ ":" ++ u.authorityText ++ u.path ++ (u.query.map ("?" ++ ·)).getD "" ++
    (u.fragment.map ("#" ++ ·)).getD ""

def target (u : Url) : String := u.path ++ (u.query.map ("?" ++ ·)).getD ""

def hasHost (u : Url) : Bool := u.authority.any (·.host ≠ "")

def whole (u : Url) : Url := { u with fragment := none }

def anonymous (u : Url) : Url :=
  { u with authority := u.authority.map ({ · with credentials := none }) }

def defaultPort (scheme : String) : Option Nat :=
  [("http", 80), ("https", 443), ("ws", 80), ("wss", 443), ("ftp", 21)].lookup scheme

def fileScheme : String := "file"

/-- The schemes whose hosts are looked up and whose locators always have a path. -/
def isSpecial (scheme : String) : Bool := (defaultPort scheme).isSome || scheme == fileScheme

def fragmentReserved : List Char := [' ', '"', '<', '>', '\x60']

def pathReserved : List Char := fragmentReserved ++ ['#', '?', '\x7b', '\x7d']

def credentialsReserved : List Char :=
  pathReserved ++ ['/', ':', ';', '=', '@', '[', '\\', ']', '^', '|']

def queryReserved (special : Bool) : List Char :=
  [' ', '"', '#', '<', '>'] ++ if special then ['\x27'] else []

/-- Adds query and fragment, as written, to a locator. -/
def withTail (u : Url) (query fragment : Option (List Char)) : Url :=
  { u with
    query := query.map (Percent.encode (queryReserved (isSpecial u.scheme)))
    fragment := fragment.map (Percent.encode fragmentReserved) }

end Url

end Matchmaking.Net
