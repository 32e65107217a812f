/-!
# Media types

The name of a body's format as a request states it, read strictly: a type, a subtype with an
optional suffix after its last plus sign, and parameters that are passed over.
-/

namespace Matchmaking.Intake

/-- The name of a format, in lower case. -/
structure MediaType where
  type : String
  subtype : String
  suffix : Option String
  deriving DecidableEq, Repr

namespace MediaType

/-- Whether a character may stand in a name. -/
def isNameChar (c : Char) : Bool :=
  c.isAlphanum || "!#$%&'*+-.^_\x60|~".toList.contains c

/-- Whether a character may stand between quotes. -/
def isQuotable (c : Char) : Bool := 0x1F < c.toNat && c.toNat != 0x7F

/-- Where a reader of parameters stands. -/
inductive ParameterState where
  /-- Before a name. -/
  | start
  | name
  | value
  | plain
  /-- Between quotes; `fresh` before the first character. -/
  | inQuotes (fresh : Bool)
  | closed
  deriving DecidableEq, Repr

def ParameterState.step (s : ParameterState) (c : Char) : Option ParameterState :=
  match s with
  | .start => if c = ' ' then some .start else if isNameChar c then some .name else none
  | .name => if c = '=' then some .value else if isNameChar c then some .name else none
  | .value =>
    if c = '"' then some (.inQuotes true) else if isNameChar c then some .plain else none
  | .plain => if c = ';' then some .start else if isNameChar c then some .plain else none
  | .inQuotes fresh =>
    if c = '"' && !fresh then some .closed
    else if isQuotable c then some (.inQuotes false) else none
  | .closed => if c = ';' then some .start else if c = ' ' then some .closed else none

def ParameterState.final : ParameterState → Bool
  | .name | .inQuotes _ => false
  | _ => true

/-- Whether what follows the first semicolon is a list of parameters. -/
def parametersWellFormed (cs : List Char) : Bool :=
  (cs.foldlM ParameterState.step ParameterState.start).any ParameterState.final

/-- Splits a subtype at its last plus sign that is not its first character. -/
def splitSuffix (cs : List Char) : List Char × Option (List Char) :=
  let (back, front) := cs.reverse.span (· ≠ '+')
  match front with
  | _ :: [] | [] => (cs, none)
  | _ :: front => (front.reverse, some back.reverse)

def lower (cs : List Char) : String := String.ofList (cs.map Char.toLower)

def parse? (s : String) : Option MediaType :=
  let (type, rest) := s.toList.span isNameChar
  match rest with
  | '/' :: rest =>
    let (subtype, rest) := rest.span isNameChar
    let wellFormed := match rest with
      | [] => true
      | ';' :: parameters => subtype ≠ [] && parametersWellFormed parameters
      | _ => false
    if type ≠ [] && wellFormed && s.toList.all (fun c => c.toNat < 0x7F) then
      let (name, suffix) := splitSuffix subtype
      some ⟨lower type, lower name, suffix.map lower⟩
    else none
  | _ => none

/-- Whether a format is JSON, or written in JSON. -/
def isJson (m : MediaType) : Bool :=
  m.type == "application" && (m.subtype == "json" || m.suffix == some "json")

end MediaType

end Matchmaking.Intake
