import Matchmaking.Net.Url.Path

/-!
# Reading locators

Reading a locator in any spelling, and what a reference means beside the locator it was found at.
-/

namespace Matchmaking.Net.Url

open Text

/-- Without the blanks and controls around a text and the tabs and line ends within. -/
def tidy (s : String) : List Char :=
  let isEdge (c : Char) := decide (c.toNat ≤ 0x20)
  let cs := ((s.toList.dropWhile isEdge).reverse.dropWhile isEdge).reverse
  cs.filter fun c => c ≠ '\t' && c ≠ '\n' && c ≠ '\r'

def isSchemeChar (c : Char) : Bool := c.isAlphanum || c == '+' || c == '-' || c == '.'

def splitScheme (cs : List Char) : Option (String × List Char) :=
  let (name, rest) := cs.span isSchemeChar
  match rest with
  | ':' :: rest =>
    if name.head?.any Char.isAlpha then some (String.ofList (name.map Char.toLower), rest)
    else none
  | _ => none

def splitTail (cs : List Char) : List Char × Option (List Char) × Option (List Char) :=
  let (front, fragment) := cs.span (· ≠ '#')
  let (path, query) := front.span (· ≠ '?')
  (path, query.tail?, fragment.tail?)

/-! ## Authorities -/

def splitColon (cs : List Char) : List Char × List Char :=
  let (front, back) := cs.span (· ≠ ':')
  (front, back.tail)

def credentials? (cs : List Char) : Option Credentials :=
  let (name, password) := splitColon cs
  if name = [] ∧ password = [] then none
  else some
    ⟨Percent.encode credentialsReserved name,
      if password = [] then none else some (Percent.encode credentialsReserved password)⟩

def splitCredentials (cs : List Char) : Option (List Char) × List Char :=
  let (host, front) := cs.reverse.span (· ≠ '@')
  match front with
  | '@' :: front => (some front.reverse, host.reverse)
  | _ => (none, cs)

/-- Splits host from port: at the first colon that is not inside brackets. -/
def splitHost : (inside : Bool) → List Char → List Char × Option (List Char)
  | _, [] => ([], none)
  | inside, c :: cs =>
    if c = ':' ∧ !inside then ([], some cs)
    else (splitHost (c = '[' || (inside && c ≠ ']')) cs).map (c :: ·) id

/-- Reads the digits of a port and what follows them. No digits stand for no port, and so does the
port that the scheme stands for. -/
def port? (scheme : String) (cs : List Char) : Option (Option Nat × List Char) :=
  let (ds, rest) := cs.span Char.isDigit
  if ds = [] then some (none, rest)
  else (SocketAddress.number 10 none true 65535 ds).map fun (n, _) =>
    (if defaultPort scheme = some n then none else some n, rest)

/-- Reads an authority, with what is left in front of the path. Credentials in front of no host are
refused, and so is a port after none; a scheme whose hosts are looked up has to have one. -/
def authority? (scheme : String) (cs : List Char) : Option (Authority × List Char) := do
  let (front, cs) := splitCredentials cs
  let (host, port) := splitHost false cs
  let credentials := front.bind credentials?
  let special := isSpecial scheme
  if host = [] ∧ (special ∨ port.isSome ∨ credentials.isSome) then none
  else
    let host ← if special then Host.resolvable? host else Host.verbatim? host
    let (port, rest) ← match port with
      | none => some (none, [])
      | some ds => port? scheme ds
    if rest.head?.any (· ≠ '\\') then none else some (⟨credentials, host, port⟩, rest)

/-- Reads what follows the two slashes in front of an authority. -/
def afterSlashes? (scheme : String) (cs : List Char) : Option Url := do
  let special := isSpecial scheme
  let (front, query, fragment) := splitTail cs
  let (front, path) := front.span fun c => !isSlash special c
  if front = ['@'] ∧ cs ≠ front then none
  else
    let (authority, rest) ← authority? scheme front
    return withTail ⟨scheme, some authority, absolutePath special (rest ++ path), none, none⟩
      query fragment

/-! ## Schemes -/

/-- The host of what lies on a machine: the machine itself has no name. -/
def fileHost? (cs : List Char) : Option String :=
  if cs = [] then some ""
  else (Host.resolvable? cs).map fun host => if host = "localhost" then "" else host

/-- Reads what follows the colon of the scheme for what lies on a machine. A path that starts at a
drive lies on the machine itself. -/
def file? (cs : List Char) : Option Url :=
  let (front, query, fragment) := splitTail cs
  let url (host : String) (path : List Char) : Url :=
    let (path, drive) := filePath path
    withTail ⟨fileScheme, some ⟨none, if drive then "" else host, none⟩, path, none, none⟩
      query fragment
  match front with
  | first :: second :: rest =>
    if isSlash true first ∧ isSlash true second then
      let (host, path) := rest.span fun c => !isSlash true c
      if isDrive host then some (url "" rest) else (fileHost? host).map (url · path)
    else some (url "" front)
  | _ => some (url "" front)

def afterScheme? (scheme : String) (cs : List Char) : Option Url :=
  if scheme = fileScheme then file? cs
  else if isSpecial scheme then afterSlashes? scheme (cs.dropWhile (isSlash true))
  else
    let (front, query, fragment) := splitTail cs
    let bare (path : String) : Url := withTail ⟨scheme, none, path, none, none⟩ query fragment
    match cs with
    | '/' :: '/' :: rest => afterSlashes? scheme rest
    | '/' :: _ => some (bare (absolutePath false front))
    | _ => some (bare (Percent.encode [] front))

def parse? (s : String) : Option Url :=
  (splitScheme (tidy s)).bind fun (scheme, rest) => afterScheme? scheme rest

/-! ## References -/

/-- Reads a reference without a scheme, found at a locator of a special scheme. -/
def relative? (base : Url) (cs : List Char) : Option Url :=
  let (path, query, fragment) := splitTail cs
  match cs with
  | '/' :: '/' :: rest => afterSlashes? base.scheme rest
  | [] => some base.whole
  | '#' :: _ => some { withTail base none fragment with query := base.query }
  | '?' :: _ => some (withTail base query fragment)
  | _ =>
    if 2 ≤ (cs.takeWhile (isSlash true)).length then
      afterSlashes? base.scheme (cs.dropWhile (isSlash true))
    else some (withTail { base with path := joinPath base.path path } query fragment)

/-- Reads a reference found at a locator of a special scheme. The scheme of the locator may stand in
front of a reference that is to be read beside it. -/
def join? (base : Url) (reference : String) : Option Url :=
  let cs := tidy reference
  match splitScheme cs with
  | none => relative? base cs
  | some (scheme, rest) =>
    if scheme = base.scheme ∧ (rest.takeWhile (isSlash true)).length < 2 then relative? base rest
    else afterScheme? scheme rest

end Matchmaking.Net.Url
