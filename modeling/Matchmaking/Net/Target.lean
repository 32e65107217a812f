import Matchmaking.Text.Utf8

/-!
# Request targets

What a request line says it asks for: a path with a query, a whole locator, or nothing but a host.
Reading is strict about which characters stand where; a fragment is no part of a target and is
dropped.
-/

namespace Matchmaking.Net

/-- What a request asks for. -/
structure Target where
  scheme : Option String
  /-- Host and port, with credentials if there are any. -/
  authority : Option String
  path : String
  query : Option String
  deriving DecidableEq, Repr

namespace Target

/-- The path that is asked for: with a scheme, no path stands for the root. -/
def pathText (t : Target) : String :=
  if t.path = "" ∧ t.scheme.isSome then "/" else t.path

def text (t : Target) : String :=
  (t.scheme.map (· ++ "://")).getD "" ++ t.authority.getD "" ++ t.pathText ++
    (t.query.map ("?" ++ ·)).getD ""

/-! ## Characters -/

def isHostChar (c : Char) : Bool := c.isAlphanum || "!$&'()*+,-.:;=@[]_~".toList.contains c

def isPathChar (c : Char) : Bool := 0x20 < c.toNat && !"#<>?\x60".toList.contains c

def isQueryChar (c : Char) : Bool := 0x20 < c.toNat && !"\"#<>".toList.contains c

def isSchemeChar (c : Char) : Bool := c.isAlphanum || "+-.".toList.contains c

/-! ## Hosts -/

/-- What the characters of a host and its credentials have shown so far. -/
structure HostScan where
  /-- The colons since the credentials and the last bracket. -/
  colons : Nat
  opened : Bool
  closed : Bool
  /-- Whether a percent sign stands in the host itself. -/
  percent : Bool
  /-- Whether the last character was the end of credentials. -/
  atEnd : Bool

/-- The most colons in a row of groups. -/
def mostColons : Nat := 8

def HostScan.step (s : HostScan) (c : Char) : Option HostScan :=
  let s' := { s with atEnd := false }
  match c with
  | ':' => if mostColons ≤ s.colons then none else some { s' with colons := s.colons + 1 }
  | '[' => if s.percent ∨ s.opened then none else some { s' with opened := true }
  | ']' =>
    if !s.opened ∨ s.closed then none
    else some { s' with closed := true, colons := 0, percent := false }
  | '@' => some { s' with colons := 0, percent := false, atEnd := true }
  | '%' => some { s' with percent := true }
  | c => if isHostChar c then some s' else none

/-- Whether characters are a host with an optional port and optional credentials. -/
def isAuthority (cs : List Char) : Bool :=
  match cs.foldlM HostScan.step ⟨0, false, false, false, false⟩ with
  | some s => s.opened == s.closed && s.colons ≤ 1 && !s.atEnd && !s.percent
  | none => false

/-! ## Reading -/

def mostBytes : Nat := 65534

def mostSchemeChars : Nat := 64

def tail? (cs : List Char) : Option (String × Option String) :=
  let (path, rest) := cs.span fun c => c ≠ '?' && c ≠ '#'
  let query := match rest with
    | '?' :: rest => some (rest.takeWhile (· ≠ '#'))
    | _ => none
  if path.all isPathChar ∧ query.all (·.all isQueryChar) then
    some (String.ofList path, query.map String.ofList)
  else none

def splitScheme (cs : List Char) : Option (String × List Char) :=
  let (name, rest) := cs.span isSchemeChar
  match rest with
  | ':' :: '/' :: '/' :: rest => some (String.ofList name, rest)
  | _ => none

/-- A scheme that stands for the transfer of documents is written in lower case. -/
def normalScheme (scheme : String) : String :=
  let lower := String.ofList (scheme.toList.map Char.toLower)
  if lower = "http" ∨ lower = "https" then lower else scheme

def parse? (s : String) : Option Target :=
  let cs := s.toList
  if mostBytes < s.utf8ByteSize then none
  else match cs with
    | [] => none
    | ['*'] => some ⟨none, none, "*", none⟩
    | '/' :: _ => (tail? cs).map fun (path, query) => ⟨none, none, path, query⟩
    | _ =>
      match splitScheme cs with
      | none => if isAuthority cs then some ⟨none, some s, "", none⟩ else none
      | some (scheme, rest) =>
        let (authority, rest) := rest.span fun c => c ≠ '/' && c ≠ '?' && c ≠ '#'
        if mostSchemeChars < scheme.length ∨ authority = [] ∨ !isAuthority authority then none
        else (tail? rest).map fun (path, query) =>
          ⟨some (normalScheme scheme), some (String.ofList authority), path, query⟩

end Target

end Matchmaking.Net
