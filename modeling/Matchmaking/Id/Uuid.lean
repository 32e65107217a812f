import Matchmaking.Number.Positional
import Matchmaking.Text.Utf8

/-!
# Universally unique identifiers

A 128-bit value as 32 hexadecimal digits. Four spellings are read: the digits alone, the digits in
five groups with hyphens, the hyphenated form in braces, and the hyphenated form after `urn:uuid:`.
The hyphenated form in lower case is written. A refused text is told what is wrong with it as close
to the form it seems to have been meant for as can be told.
-/

namespace Matchmaking.Uuid

open Number Text

inductive Error where
  /-- The text has so many bytes, which fits no spelling. -/
  | invalidLength (found : Nat)
  /-- A character is neither a hexadecimal digit nor a hyphen. -/
  | invalidCharacter (found : Char) (index : Nat)
  /-- There are not five groups. -/
  | invalidGroupCount (found : Nat)
  /-- A group has the wrong number of digits. -/
  | invalidGroupLength (group expected found : Nat)
  /-- Cutting off the wrapping split a character. -/
  | notText
  deriving DecidableEq, Repr

def Error.message : Error → String
  | .invalidLength n => s!"invalid length: found {n}"
  | .invalidCharacter c i => s!"invalid character: found `{c}` at {i}"
  | .invalidGroupCount n => s!"invalid group count: expected 5, found {n}"
  | .invalidGroupLength g e n =>
    s!"invalid group length in group {g}: expected {e}, found {n}"
  | .notText => "non-UTF8 input"

def nibble? (b : UInt8) : Option Nat :=
  if 0x30 ≤ b && b ≤ 0x39 then some (b.toNat - 0x30)
  else if 0x41 ≤ b && b ≤ 0x46 then some (b.toNat - 0x37)
  else if 0x61 ≤ b && b ≤ 0x66 then some (b.toNat - 0x57)
  else none

def ofNibbles? (bs : List UInt8) : Option (BitVec 128) :=
  (bs.mapM nibble?).map fun ds => BitVec.ofNat 128 (ofDigits 16 ds)

def hyphenPlaces : List Nat := [8, 13, 18, 23]

/-- The digits of a hyphenated form, if its hyphens stand where they must. -/
def unhyphenate? (bs : List UInt8) : Option (List UInt8) :=
  if hyphenPlaces.all fun i => bs[i]? == some 0x2D then
    some (bs.take 8 ++ (bs.drop 9).take 4 ++ (bs.drop 14).take 4 ++ (bs.drop 19).take 4 ++
      bs.drop 24)
  else none

def urnMark : List UInt8 := [0x75, 0x72, 0x6E, 0x3A, 0x75, 0x75, 0x69, 0x64, 0x3A]

def lowerByte (b : UInt8) : UInt8 := if 0x41 ≤ b && b ≤ 0x5A then b + 0x20 else b

/-- Whether bytes begin with `urn:uuid:` in any case. -/
def hasUrnMark (bs : List UInt8) : Bool := (bs.take 9).map lowerByte == urnMark

/-- Whether bytes begin with an opening brace and end with a closing one. -/
def isBraced (bs : List UInt8) : Bool :=
  2 ≤ bs.length && bs.head? == some 0x7B && bs.getLast? == some 0x7D

/-- What is left of bytes in braces. -/
def unbrace (bs : List UInt8) : List UInt8 := bs.tail.dropLast

/-- The 36 bytes that the length of a text and its wrapping mark as a hyphenated form. -/
def hyphenated? (bs : List UInt8) : Option (List UInt8) :=
  if bs.length = 36 then some bs
  else if bs.length = 38 && isBraced bs then some (unbrace bs)
  else if bs.length = 45 && hasUrnMark bs then some (bs.drop 9)
  else none

/-- The value of a text in one of the four spellings. -/
def read? (bs : List UInt8) : Option (BitVec 128) :=
  if bs.length = 32 then ofNibbles? bs
  else (hyphenated? bs).bind fun inner => (unhyphenate? inner).bind ofNibbles?

/-- The form a refused text is judged by. -/
inductive Form where
  /-- No sign yet of any form. -/
  | bare
  /-- A form made of hyphenated groups. -/
  | grouped
  deriving DecidableEq, Repr

/-- The places of the hyphens in a text of digits and hyphens, or the first other character with
its place; places count bytes. -/
def hyphens : (place : Nat) → List Char → Except (Char × Nat) (List Nat)
  | _, [] => .ok []
  | i, c :: cs =>
    if c = '-' then (hyphens (i + 1) cs).map (i :: ·)
    else if c.toNat < 0x80 && (nibble? (UInt8.ofNat c.toNat)).isSome then hyphens (i + 1) cs
    else .error (c, i)

/-- The first of the first four groups whose hyphen is out of place, with the digits due and
found. -/
def misplaced? (places : List Nat) : Option (Nat × Nat × Nat) :=
  let groups := [(0, 0, 8), (1, 9, 4), (2, 14, 4), (3, 19, 4)]
  (groups.zip places).findSome? fun ((group, start, due), place) =>
    if place = start + due then none else some (group, due, place - start)

/-- What is wrong with groups whose hyphens stand at the given places in a text of `size` bytes. -/
def groupFault (places : List Nat) (size : Nat) : Error :=
  if places.length ≠ 4 then .invalidGroupCount (places.length + 1)
  else match misplaced? places with
    | some (group, due, found) => .invalidGroupLength group due found
    | none => .invalidGroupLength 4 12 (size - 24)

/-- The form of a text, where the part to be judged starts, and that part. -/
def unwrap (bs : List UInt8) : Form × Nat × List UInt8 :=
  if isBraced bs then (.grouped, 1, unbrace bs)
  else if hasUrnMark bs then (.grouped, 9, bs.drop 9)
  else (.bare, 0, bs)

/-- What is wrong with the bytes of a refused text. -/
def fault (bs : List UInt8) : Error :=
  let (form, whole) := match hyphenated? bs with
    | some inner => (Form.grouped, inner)
    | none => (Form.bare, bs)
  if whole.isEmpty || 45 < whole.length then .invalidLength whole.length
  else if (ofBytes? whole).isNone then .notText
  else
    let (form, start, part) := if form = .bare then unwrap whole else (form, 0, whole)
    match hyphens 0 (((ofBytes? part).getD "").toList) with
    | .error (c, i) => .invalidCharacter c (i + start)
    | .ok places =>
      if form = .bare && places.isEmpty then .invalidLength whole.length
      else groupFault places whole.length

def decode (s : String) : Except Error (BitVec 128) :=
  match read? (bytes s) with
  | some value => .ok value
  | none => .error (fault (bytes s))

def charOfNibble (d : Nat) : Char := "0123456789abcdef".toList.getD d '0'

def nibbles (value : BitVec 128) : List Char := (toDigits 16 32 value.toNat).map charOfNibble

def encode (value : BitVec 128) : String :=
  let ds := nibbles value
  String.ofList (ds.take 8 ++ ['-'] ++ (ds.drop 8).take 4 ++ ['-'] ++ (ds.drop 12).take 4 ++
    ['-'] ++ (ds.drop 16).take 4 ++ ['-'] ++ ds.drop 20)

/-- A value of random bits, marked as such in its version and variant bits. -/
def ofRandom (random : Nat) : BitVec 128 :=
  let bits := BitVec.ofNat 128 random
  let versionMask : BitVec 128 := 0xF000 <<< 64
  let variantMask : BitVec 128 := 0xC000 <<< 48
  (bits &&& ~~~versionMask &&& ~~~variantMask) ||| (0x4000 <<< 64) ||| (0x8000 <<< 48)

end Matchmaking.Uuid
