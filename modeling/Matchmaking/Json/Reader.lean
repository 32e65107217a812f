import Matchmaking.Json.Skip

/-!
# Readers

A reader takes a value of one type off the front of a document and leaves the rest. It reports the
first fault in the order of the bytes: the form of everything up to a value is judged before the
value's content.
-/

namespace Matchmaking.Json

open Matchmaking.Text Matchmaking.Number

/-- A reader of values of a type. -/
abbrev Reader (α : Type) : Type := StateT (List UInt8) (Except Failure) α

namespace Reader

variable {α : Type}

def fail (fault : Fault) : Reader α := fun _ => .error ⟨[], fault⟩

/-- Refuses the document for its form. -/
def reject (flaw : Flaw) : Reader α := fail (.flaw flaw)

/-- A scanner of the form as a reader. -/
def scanning (scan : List UInt8 → Except Flaw (α × List UInt8)) : Reader α := fun bs =>
  match scan bs with
  | .ok r => .ok r
  | .error flaw => .error ⟨[], .flaw flaw⟩

/-- A scanner that only moves on, as a reader. -/
def passing (skip : List UInt8 → Except Flaw (List UInt8)) : Reader Unit :=
  scanning fun bs => (skip bs).map fun rest => ((), rest)

/-- A reader of a part of a value: its faults name the way to the part. -/
def within (step : Step) (read : Reader α) : Reader α := fun bs =>
  match read bs with
  | .ok r => .ok r
  | .error failure => .error { failure with path := step :: failure.path }

/-- The first byte of the next token, which stays in place. -/
def peek : Reader (Option UInt8) := fun bs =>
  let bs := dropSpace bs
  .ok (bs.head?, bs)

def advance : Reader Unit := modify List.tail

def skip : Reader Unit := passing skipValue

/-- Names the value that comes next: a scalar is read, of a container only the start is seen. -/
def found : Reader Found := do
  match ← peek with
  | none => reject .endInValue
  | some b =>
    if b = 0x6E then advance; passing (readWord nullTail); return .null
    else if b = 0x74 then advance; passing (readWord trueTail); return .flag true
    else if b = 0x66 then advance; passing (readWord falseTail); return .flag false
    else if b = 0x22 then advance; return .text (← scanning readTextBody)
    else if b = 0x2D ∨ isDigit b then return (← scanning readNumber).found
    else if b = 0x5B then return .list
    else if b = 0x7B then return .object
    else reject .expectedValue

/-- Refuses the value that comes next for not being of the expected kind. -/
def mismatch (expected : String) : Reader α := do
  fail (.wrongType (← found) expected)

/-- Reads a text; `expected` says what a value of another type is told was expected. -/
def textFor (expected : String) : Reader String := do
  match ← peek with
  | some 0x22 => advance; scanning readTextBody
  | none => reject .endInValue
  | some _ => mismatch expected

def text : Reader String := textFor "a string"

/-- Reads a text that names a value by rules of its own. -/
def named (expected : String) (parse : String → Except String α) : Reader α := do
  match parse (← textFor expected) with
  | .ok a => return a
  | .error why => fail (.refused why)

def flag : Reader Bool := do
  match ← peek with
  | some 0x74 => advance; passing (readWord trueTail); return true
  | some 0x66 => advance; passing (readWord falseTail); return false
  | none => reject .endInValue
  | some _ => mismatch "a boolean"

/-- Reads an integer between two bounds; `expected` names the type that has them. -/
def integer (least most : Int) (expected : String) : Reader Int := do
  match ← peek with
  | none => reject .endInValue
  | some b =>
    if b = 0x2D ∨ isDigit b then
      match ← scanning readNumber with
      | .integer n =>
        if least ≤ n ∧ n ≤ most then return n else fail (.wrongValue n expected)
      | .float x => fail (.wrongType (.float x) expected)
    else mismatch expected

def uint16 : Reader UInt16 := do
  return UInt16.ofNat (← integer 0 65535 "u16").toNat

def int32 : Reader Int32 := do
  return Int32.ofInt (← integer (-mostSigned32 - 1) mostSigned32 "i32")

def int64 : Reader Int64 := do
  return Int64.ofInt (← integer (-mostSigned64 - 1) mostSigned64 "i64")

/-- Reads `null` as nothing, anything else as a value. -/
def optional (read : Reader α) : Reader (Option α) := do
  match ← peek with
  | some 0x6E => advance; passing (readWord nullTail); return none
  | _ => return some (← read)

def unit : Reader Unit := do
  match ← peek with
  | some 0x6E => advance; passing (readWord nullTail)
  | none => reject .endInValue
  | some _ => mismatch "unit"

/-! ## Lists -/

/-- Whether a list goes on; reads the comma before any element but the first. The end of the list
stays in place. -/
def moreItems (first : Bool) : Reader Bool := do
  match ← peek with
  | none => reject .endInList
  | some 0x5D => return false
  | some b =>
    if first then return true
    else if b = 0x2C then
      advance
      match ← peek with
      | none => reject .endInValue
      | some 0x5D => reject .trailingComma
      | some _ => return true
    else reject .expectedCommaOrListEnd

def endList : Reader Unit := do
  match ← peek with
  | none => reject .endInList
  | some 0x5D => advance
  | some 0x2C =>
    advance
    match ← peek with
    | some 0x5D => reject .trailingComma
    | _ => reject .trailingCharacters
  | some _ => reject .trailingCharacters

/-- Reads the elements of a list from the given index on. -/
def items (read : Reader α) : (fuel index : Nat) → Reader (List α)
  | 0, _ => reject .endInList
  | fuel + 1, index => do
    if ← moreItems (index = 0) then
      let a ← within (.item index) read
      return a :: (← items read fuel (index + 1))
    else return []

/-- Reads a list. Each element takes at least one byte. -/
def list (read : Reader α) : Reader (List α) := do
  match ← peek with
  | none => reject .endInValue
  | some 0x5B =>
    advance
    let all ← items read ((← get).length + 1) 0
    endList
    return all
  | some _ => mismatch "a sequence"

/-! ## Objects -/

/-- Whether an object goes on; reads the comma before any member but the first, and the opening
quote of the member's name. The end of the object stays in place. -/
def moreMembers (first : Bool) : Reader Bool := do
  match ← peek with
  | none => reject .endInObject
  | some 0x7D => return false
  | some b =>
    if first then
      if b = 0x22 then advance; return true else reject .keyNotText
    else if b = 0x2C then
      advance
      match ← peek with
      | none => reject .endInValue
      | some 0x22 => advance; return true
      | some 0x7D => reject .trailingComma
      | some _ => reject .keyNotText
    else reject .expectedCommaOrObjectEnd

def colon : Reader Unit := do
  match ← peek with
  | none => reject .endInObject
  | some 0x3A => advance
  | some _ => reject .expectedColon

/-- Reads the members of an object, the first one next if `first`, and adds each to what has been
gathered. -/
def members {σ : Type} (add : (name : String) → σ → Reader σ) :
    (fuel : Nat) → (first : Bool) → σ → Reader σ
  | 0, _, _ => reject .endInObject
  | fuel + 1, first, gathered => do
    if ← moreMembers first then
      let name ← scanning readTextBody
      members add fuel false (← add name gathered)
    else return gathered

/-- Reads an object after its opening brace, gathering its members. Each member takes at least one
byte. -/
def object {σ : Type} (add : (name : String) → σ → Reader σ) (start : σ) : Reader σ := do
  members add ((← get).length + 1) true start

/-- Reads a choice without content, by its name: a text, or an object with the name as its one
member and `null` as that member's value. -/
def choice (ofName : String → α) : Reader α := do
  match ← peek with
  | none => reject .endInValue
  | some 0x22 => return ofName (← text)
  | some 0x7B =>
    advance
    match ← peek with
    | none => reject .endInObject
    | some 0x7D => reject .expectedValue
    | some 0x22 =>
      advance
      let name ← scanning readTextBody
      colon
      unit
      match ← peek with
      | none => reject .endInObject
      | some 0x7D => advance; return ofName name
      | some _ => reject .expectedValue
    | some _ => reject .keyNotText
  | some _ => reject .expectedValue

/-! ## Documents -/

/-- Reads a whole document: a value with nothing but blanks after it. -/
def run (read : Reader α) (bs : List UInt8) : Except Failure α :=
  match read bs with
  | .error failure => .error failure
  | .ok (a, rest) =>
    if (dropSpace rest).isEmpty then .ok a else .error ⟨[], .flaw .trailingCharacters⟩

end Reader

end Matchmaking.Json
