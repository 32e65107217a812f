/-!
# Numerals

Reading a whole number out of a text of ASCII digits, within a bound, and writing one in decimal
with a fixed least width. A reader either takes the whole text or says why it does not.
-/

namespace Matchmaking.Text

/-- Why a text is not a numeral of the wanted range. -/
inductive NumeralError where
  /-- The text is empty. -/
  | empty
  /-- Something other than a digit stands where a digit is due. -/
  | invalidDigit
  /-- The number is above the largest one allowed. -/
  | tooLarge
  /-- The number is below the smallest one allowed. -/
  | tooSmall
  deriving DecidableEq, Repr

def NumeralError.message : NumeralError → String
  | .empty => "cannot parse integer from empty string"
  | .invalidDigit => "invalid digit found in string"
  | .tooLarge => "number too large to fit in target type"
  | .tooSmall => "number too small to fit in target type"

/-- The value of an ASCII decimal digit. -/
def digitValue (c : Char) : Option Nat :=
  if '0' ≤ c ∧ c ≤ '9' then some (c.toNat - '0'.toNat) else none

def digitIn? (base : Nat) (c : Char) : Option Nat :=
  let value? :=
    if '0' ≤ c ∧ c ≤ '9' then some (c.toNat - 48)
    else if 'a' ≤ c ∧ c ≤ 'f' then some (c.toNat - 87)
    else if 'A' ≤ c ∧ c ≤ 'F' then some (c.toNat - 55)
    else none
  value?.filter (· < base)

/-- Reads digits onto the number `n` read so far, refusing a non-digit and a number above `most`,
whichever comes first. -/
def accumulate (most : Nat) : Nat → List Char → Except NumeralError Nat
  | n, [] => .ok n
  | n, c :: cs =>
    match digitValue c with
    | none => .error .invalidDigit
    | some d => if n * 10 + d ≤ most then accumulate most (n * 10 + d) cs else .error .tooLarge

/-- Reads a natural number up to `most`: an optional plus sign, then one or more digits. -/
def readNat (most : Nat) (cs : List Char) : Except NumeralError Nat :=
  match cs with
  | [] => .error .empty
  | ['+'] | ['-'] => .error .invalidDigit
  | '+' :: cs => accumulate most 0 cs
  | cs => accumulate most 0 cs

/-- Reads an integer from `-most - 1` to `most`: an optional sign, then one or more digits. -/
def readInt (most : Nat) (cs : List Char) : Except NumeralError Int :=
  match cs with
  | '-' :: c :: cs =>
    match accumulate (most + 1) 0 (c :: cs) with
    | .ok n => .ok (-(n : Int))
    | .error .tooLarge => .error .tooSmall
    | .error e => .error e
  | cs => (readNat most cs).map Int.ofNat

def digits (n : Nat) : List Char := Nat.toDigits 10 n

/-- A number in decimal, with zeros in front up to the given width. -/
def padded (width n : Nat) : String :=
  let ds := digits n
  String.ofList (List.replicate (width - ds.length) '0' ++ ds)

end Matchmaking.Text
