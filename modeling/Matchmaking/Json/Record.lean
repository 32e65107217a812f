import Matchmaking.Json.Reader

/-!
# Records

A record is written as an object with a member for each field, in any order and among members of
other names, or as a list of the fields' values in order. A field may have a value to fall back on
when it is left out.
-/

namespace Matchmaking.Json

/-- A field of a record: its name, the reader of its value, and the value it has when left out. -/
structure Field (α : Type) where
  name : String
  read : Reader α
  fallback : Option α

def Field.required {α : Type} (name : String) (read : Reader α) : Field α := ⟨name, read, none⟩

def Field.defaulted {α : Type} (name : String) (read : Reader α) (fallback : α) : Field α :=
  ⟨name, read, some fallback⟩

/-- A field that may be left out or `null`. -/
def Field.optional {α : Type} (name : String) (read : Reader α) : Field (Option α) :=
  ⟨name, read.optional, some none⟩

/-- The fields of a record, in order, by the types of their values. -/
inductive Fields : List Type → Type 1 where
  | nil : Fields []
  | cons {α : Type} {αs : List Type} (field : Field α) (rest : Fields αs) : Fields (α :: αs)

abbrev Values : List Type → Type
  | [] => Unit
  | α :: αs => α × Values αs

/-- One value for each field that has been read. -/
abbrev Slots : List Type → Type
  | [] => Unit
  | α :: αs => Option α × Slots αs

namespace Fields

def vacant : {αs : List Type} → Fields αs → Slots αs
  | [], .nil => ()
  | _ :: _, .cons _ rest => (none, vacant rest)

def size : {αs : List Type} → Fields αs → Nat
  | [], .nil => 0
  | _ :: _, .cons _ rest => rest.size + 1

/-- Reads the rest of a member, from the colon on, into the slot of the field with its name. A
second member for one field is refused before its value is read; a member for no field is passed
over. -/
def add : {αs : List Type} → Fields αs → (name : String) → Slots αs → Reader (Slots αs)
  | [], .nil, name, () => do
    Reader.colon
    Reader.within (.member name) Reader.skip
    return ()
  | _ :: _, .cons field rest, name, (slot, slots) => do
    if field.name = name then
      if slot.isSome then Reader.fail (.duplicateField name)
      Reader.colon
      let a ← Reader.within (.member name) field.read
      return (some a, slots)
    else return (slot, ← rest.add name slots)

def complete : {αs : List Type} → Fields αs → Slots αs → Except Fault (Values αs)
  | [], .nil, () => .ok ()
  | _ :: _, .cons field rest, (slot, slots) =>
    match slot <|> field.fallback with
    | none => .error (.missingField field.name)
    | some a =>
      match rest.complete slots with
      | .error e => .error e
      | .ok as => .ok (a, as)

/-- Reads the fields from a list, from the given index on. -/
def inOrder (record : String) (size : Nat) :
    {αs : List Type} → (index : Nat) → Fields αs → Reader (Values αs)
  | [], _, .nil => return ()
  | _ :: _, index, .cons field rest => do
    if ← Reader.moreItems (index = 0) then
      let a ← Reader.within (.item index) field.read
      return (a, ← inOrder record size (index + 1) rest)
    else match field.fallback with
      | none => Reader.fail (.wrongLength index record size)
      | some a => return (a, ← inOrder record size (index + 1) rest)

end Fields

/-- Reads a record with a name and fields. -/
def Reader.record {αs : List Type} (name : String) (fields : Fields αs) : Reader (Values αs) := do
  match ← Reader.peek with
  | none => Reader.reject .endInValue
  | some 0x5B =>
    Reader.advance
    let values ← fields.inOrder name fields.size 0
    Reader.endList
    return values
  | some 0x7B =>
    Reader.advance
    let slots ← Reader.object fields.add fields.vacant
    match fields.complete slots with
    | .error fault => Reader.fail fault
    | .ok values =>
      Reader.advance
      return values
  | some _ => Reader.mismatch s!"struct {name}"

end Matchmaking.Json
