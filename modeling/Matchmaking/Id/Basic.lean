import Matchmaking.Id.Ulid
import Matchmaking.Id.Uuid

/-!
# Identifiers

Matches and messages have identifiers of the form `kind_VALUE`, with a sortable value; players
have universally unique ones. The kind is part of the type, so that one cannot stand for another.
-/

namespace Matchmaking

/-- What an identifier with a kind in its text can name. -/
inductive IdKind where
  | game
  | message
  deriving DecidableEq, Repr

/-- The text before the separator. -/
def IdKind.label : IdKind → String
  | .game => "match"
  | .message => "msg"

/-- Why a text is no identifier of the wanted type. -/
inductive IdError where
  | empty
  | invalidPrefix (expected found : String)
  | missingSeparator
  | invalidUlid (why : Ulid.Error)
  | invalidUuid (why : Uuid.Error)
  deriving DecidableEq, Repr

def IdError.message : IdError → String
  | .empty => "ID cannot be empty"
  | .invalidPrefix expected found => s!"invalid ID prefix: expected '{expected}', got '{found}'"
  | .missingSeparator => "ID missing underscore separator"
  | .invalidUlid why => s!"invalid ULID: {why.message}"
  | .invalidUuid why => s!"invalid UUID: {why.message}"

structure Id (kind : IdKind) where
  value : BitVec 128
  deriving DecidableEq, Repr, Hashable

abbrev MatchId := Id .game

abbrev MessageId := Id .message

namespace Id

variable {kind : IdKind}

def text (id : Id kind) : String := kind.label ++ "_" ++ Ulid.encode id.value

/-- Reads an identifier: everything before the first underscore is the kind, the rest the value. -/
def parse (s : String) : Except IdError (Id kind) :=
  if s = "" then .error .empty
  else
    let (label, rest) := s.toList.span (· ≠ '_')
    match rest with
    | [] => .error .missingSeparator
    | _ :: value =>
      if String.ofList label ≠ kind.label then
        .error (.invalidPrefix kind.label (String.ofList label))
      else match Ulid.decode (String.ofList value) with
        | .ok value => .ok ⟨value⟩
        | .error why => .error (.invalidUlid why)

/-- Identifiers are ordered by value. -/
def compare (a b : Id kind) : Ordering := Ord.compare a.value.toNat b.value.toNat

/-- A new identifier from a time in milliseconds and random bits. -/
def mint (kind : IdKind) (time random : Nat) : Id kind := ⟨Ulid.assemble time random⟩

end Id

structure PlayerId where
  value : BitVec 128
  deriving DecidableEq, Repr, Hashable

namespace PlayerId

def text (id : PlayerId) : String := Uuid.encode id.value

def parse (s : String) : Except IdError PlayerId :=
  if s = "" then .error .empty
  else match Uuid.decode s with
    | .ok value => .ok ⟨value⟩
    | .error why => .error (.invalidUuid why)

def compare (a b : PlayerId) : Ordering := Ord.compare a.value.toNat b.value.toNat

def mint (random : Nat) : PlayerId := ⟨Uuid.ofRandom random⟩

/-- How a log line shows an identifier. -/
def label (id : PlayerId) : String := s!"PlayerId({id.text})"

end PlayerId

end Matchmaking
