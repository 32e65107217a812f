import Matchmaking.Number.Positional

/-!
# Sortable identifiers in base 32

A 128-bit value as 26 characters of Crockford's base 32: digits and upper-case letters without
`I`, `L`, `O` and `U`, read in either case. The first 48 bits are a time in milliseconds, the other
80 are random, so that texts sort by time. 26 characters hold 130 bits; the two highest are
dropped on reading.
-/

namespace Matchmaking.Ulid

open Number

/-- Why a text is no identifier. -/
inductive Error where
  /-- The text does not have 26 bytes. -/
  | invalidLength
  /-- A character is none of the 32 digits. -/
  | invalidCharacter
  deriving DecidableEq, Repr

def Error.message : Error → String
  | .invalidLength => "invalid length"
  | .invalidCharacter => "invalid character"

def textLength : Nat := 26

def alphabet : List Char := "0123456789ABCDEFGHJKMNPQRSTVWXYZ".toList

def charOfDigit (d : Nat) : Char := alphabet.getD d '0'

/-- The digit that a character stands for, in either case. -/
def digitOfChar? (c : Char) : Option Nat := alphabet.idxOf? c.toUpper

def encode (value : BitVec 128) : String :=
  String.ofList ((toDigits 32 textLength value.toNat).map charOfDigit)

/-- The value of a text; length is judged before characters. -/
def decode (s : String) : Except Error (BitVec 128) :=
  if s.utf8ByteSize ≠ textLength then .error .invalidLength
  else match s.toList.mapM digitOfChar? with
    | none => .error .invalidCharacter
    | some ds => .ok (BitVec.ofNat 128 (ofDigits 32 ds))

/-- The time part of a value, in milliseconds. -/
def millis (value : BitVec 128) : Nat := value.toNat / Nat.pow 2 80

def assemble (time random : Nat) : BitVec 128 :=
  BitVec.ofNat 128 (time % Nat.pow 2 48 * Nat.pow 2 80 + random % Nat.pow 2 80)

end Matchmaking.Ulid
