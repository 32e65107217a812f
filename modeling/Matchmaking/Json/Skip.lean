import Matchmaking.Json.Number
import Matchmaking.Json.Text

/-!
# Passing over a value

A value that nobody asks for is checked for its form only, to any depth. The containers that are
still open are kept in a list, innermost first, so that depth costs no nesting of calls.
-/

namespace Matchmaking.Json

def isSpace (b : UInt8) : Bool := b == 0x20 || b == 0x0A || b == 0x09 || b == 0x0D

/-- The bytes from the next token on. -/
def dropSpace (bs : List UInt8) : List UInt8 := bs.dropWhile isSpace

def readWord : (word : List UInt8) → List UInt8 → Except Flaw (List UInt8)
  | [], bs => .ok bs
  | _ :: _, [] => .error .endInValue
  | w :: word, b :: bs => if w = b then readWord word bs else .error .expectedIdent

def nullTail : List UInt8 := [0x75, 0x6C, 0x6C]

def trueTail : List UInt8 := [0x72, 0x75, 0x65]

def falseTail : List UInt8 := [0x61, 0x6C, 0x73, 0x65]

/-- A kind of value with parts. -/
inductive Container where
  | list
  | object
  deriving DecidableEq, Repr

def Container.close : Container → UInt8
  | .list => 0x5D
  | .object => 0x7D

/-- The flaw of a container that the end of the input cuts short. -/
def Container.cutShort : Container → Flaw
  | .list => .endInList
  | .object => .endInObject

/-- The flaw of a container whose parts are not kept apart. -/
def Container.unseparated : Container → Flaw
  | .list => .expectedCommaOrListEnd
  | .object => .expectedCommaOrObjectEnd

/-- Passes over what stands before the value of a part: nothing in a list, a name and a colon in an
object. -/
def skipLabel : Container → List UInt8 → Except Flaw (List UInt8)
  | .list, bs => .ok bs
  | .object, bs =>
    match dropSpace bs with
    | [] => .error .endInObject
    | b :: bs =>
      if b ≠ 0x22 then .error .keyNotText
      else match skipTextBody bs with
        | .error e => .error e
        | .ok bs =>
          match dropSpace bs with
          | [] => .error .endInObject
          | b :: bs => if b = 0x3A then .ok bs else .error .expectedColon

/-- Passes over a value without parts that starts with the given byte. -/
def skipScalar (b : UInt8) (bs : List UInt8) : Except Flaw (List UInt8) :=
  if b = 0x22 then skipTextBody bs
  else if b = 0x6E then readWord nullTail bs
  else if b = 0x74 then readWord trueTail bs
  else if b = 0x66 then readWord falseTail bs
  else if b = 0x2D ∨ isDigit b then skipNumber (b :: bs)
  else .error .expectedValue

/-- What is due next while a value is passed over. -/
inductive Due where
  /-- A value. -/
  | value
  /-- The first part of the innermost container, or its end. -/
  | part
  /-- What follows a complete value. -/
  | sequel
  deriving DecidableEq, Repr

/-- Passes over what is due and all that is still open. -/
def skipOpen : (fuel : Nat) → Due → List Container → List UInt8 → Except Flaw (List UInt8)
  | 0, _, _, _ => .error .endInValue
  | fuel + 1, .value, stack, bs =>
    match dropSpace bs with
    | [] => .error .endInValue
    | b :: bs =>
      if b = 0x5B then skipOpen fuel .part (.list :: stack) bs
      else if b = 0x7B then skipOpen fuel .part (.object :: stack) bs
      else match skipScalar b bs with
        | .error e => .error e
        | .ok bs => skipOpen fuel .sequel stack bs
  | fuel + 1, .part, [], bs => skipOpen fuel .sequel [] bs
  | fuel + 1, .part, c :: stack, bs =>
    match dropSpace bs with
    | [] => .error c.cutShort
    | b :: bs =>
      if b = c.close then skipOpen fuel .sequel stack bs
      else match skipLabel c (b :: bs) with
        | .error e => .error e
        | .ok bs => skipOpen fuel .value (c :: stack) bs
  | _ + 1, .sequel, [], bs => .ok bs
  | fuel + 1, .sequel, c :: stack, bs =>
    match dropSpace bs with
    | [] => .error c.cutShort
    | b :: bs =>
      if b = 0x2C then
        match skipLabel c bs with
        | .error e => .error e
        | .ok bs => skipOpen fuel .value (c :: stack) bs
      else if b = c.close then skipOpen fuel .sequel stack bs
      else .error c.unseparated

/-- Passes over a value. Two steps at most are taken for each byte. -/
def skipValue (bs : List UInt8) : Except Flaw (List UInt8) :=
  skipOpen (2 * bs.length + 2) .value [] bs

end Matchmaking.Json
