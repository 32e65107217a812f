import Matchmaking.Json.Fault
import Matchmaking.Number.Width

/-!
# Reading a JSON number

A number without fraction and exponent that fits 64 bits is an integer, any other a
double-precision one. The leading digits that fit 64 bits count, the places of the digits after
them only scale the result.
-/

namespace Matchmaking.Json

open Matchmaking.Number

/-- A number as read. -/
inductive Numeric where
  | integer (n : Int)
  | float (x : Float)

def Numeric.found : Numeric → Found
  | .integer n => .integer n
  | .float x => .float x

def isDigit (b : UInt8) : Bool := 0x30 ≤ b && b ≤ 0x39

def digitOf (b : UInt8) : Nat := b.toNat - 0x30

def mostSignificand : Nat := mostUnsigned64

/-- Takes up digits while the significand fits: the significand, and how many digits are left
over. -/
def absorb : (significand : Nat) → List UInt8 → Nat × Nat
  | n, [] => (n, 0)
  | n, d :: ds =>
    if n * 10 + digitOf d ≤ mostSignificand then absorb (n * 10 + digitOf d) ds
    else (n, ds.length + 1)

/-- The written parts of a number. -/
structure NumberText where
  negative : Bool
  whole : List UInt8
  /-- The digits after the point, if there is one. -/
  fraction : Option (List UInt8)
  /-- Whether the exponent is negative, and its digits, if there is one. -/
  exponent : Option (Bool × List UInt8)

/-- The flaw of a number that breaks off: another one at the end of the input when the number is
read for its value. -/
def breakOff (cut : Flaw) : List UInt8 → Flaw
  | [] => cut
  | _ :: _ => .invalidNumber

/-- Reads the digits before the point; a zero stands alone. -/
def scanWhole (cut : Flaw) (bs : List UInt8) : Except Flaw (List UInt8 × List UInt8) :=
  let (ds, rest) := bs.span isDigit
  match ds with
  | [] => .error (breakOff cut bs)
  | 0x30 :: _ :: _ => .error .invalidNumber
  | _ => .ok (ds, rest)

def scanFraction (cut : Flaw) : List UInt8 → Except Flaw (Option (List UInt8) × List UInt8)
  | 0x2E :: bs =>
    let (ds, rest) := bs.span isDigit
    if ds.isEmpty then .error (breakOff cut bs) else .ok (some ds, rest)
  | bs => .ok (none, bs)

/-- The sign of an exponent, and what follows it. -/
def exponentSign : List UInt8 → Bool × List UInt8
  | 0x2B :: bs => (false, bs)
  | 0x2D :: bs => (true, bs)
  | bs => (false, bs)

/-- Reads an exponent, if there is one. -/
def scanExponent (cut : Flaw) : List UInt8 →
    Except Flaw (Option (Bool × List UInt8) × List UInt8)
  | [] => .ok (none, [])
  | b :: bs =>
    if b = 0x65 ∨ b = 0x45 then
      let (negative, bs) := exponentSign bs
      let (ds, rest) := bs.span isDigit
      if ds.isEmpty then .error (breakOff cut bs) else .ok (some (negative, ds), rest)
    else .ok (none, b :: bs)

/-- Reads the parts of a number. `cut` is the flaw of a number that the end of the input cuts
short. -/
def scanNumber (cut : Flaw) (bs : List UInt8) : Except Flaw (NumberText × List UInt8) := do
  let (negative, bs) := match bs with
    | 0x2D :: bs => (true, bs)
    | bs => (false, bs)
  let (whole, bs) ← scanWhole cut bs
  let (fraction, bs) ← scanFraction cut bs
  let (exponent, bs) ← scanExponent cut bs
  return (⟨negative, whole, fraction, exponent⟩, bs)

def powerOfTen (n : Nat) : Float := Float.ofScientific 1 false n

/-- A number times a power of ten. Powers above 308 are out of range; powers below -308 are reached
by steps of 308, of which two leave nothing of any significand. -/
def scale : (steps : Nat) → Float → Int → Option Float
  | steps, x, e =>
    if e.natAbs ≤ 308 then
      if 0 ≤ e then
        let y := x * powerOfTen e.natAbs
        if y.isInf then none else some y
      else some (x / powerOfTen e.natAbs)
    else if x == 0.0 then some x
    else if 0 ≤ e then none
    else match steps with
      | 0 => some 0.0
      | steps + 1 => scale steps (x / powerOfTen 308) (e + 308)

/-- The largest exponent that is told from an endless one. -/
def mostExponent : Nat := mostSigned32

/-- The magnitude of a number that is not an integer. -/
def NumberText.magnitude (t : NumberText) : Except Flaw Float :=
  let (n, spilled) := absorb 0 t.whole
  let fraction := t.fraction.getD []
  let (n, unread) := absorb n fraction
  let places : Int := spilled - (fraction.length - unread : Nat)
  let (below, ds) := t.exponent.getD (false, [])
  let e := ds.foldl (fun e d => e * 10 + digitOf d) 0
  if mostExponent < e then
    if n ≠ 0 ∧ !below then .error .numberOutOfRange else .ok 0.0
  else
    match scale 2 n.toUInt64.toFloat (if below then places - e else places + e) with
    | some x => .ok x
    | none => .error .numberOutOfRange

/-- The value of a number. Minus zero and an integer that does not fit 64 bits are
double-precision numbers. -/
def NumberText.value (t : NumberText) : Except Flaw Numeric :=
  let (n, spilled) := absorb 0 t.whole
  let fits := if t.negative then n ≠ 0 ∧ n ≤ mostSigned64 + 1 else True
  if t.fraction.isNone ∧ t.exponent.isNone ∧ spilled = 0 ∧ fits then
    .ok (.integer (if t.negative then -(n : Int) else n))
  else match t.magnitude with
    | .error e => .error e
    | .ok x => .ok (.float (if t.negative then -x else x))

def readNumber (bs : List UInt8) : Except Flaw (Numeric × List UInt8) := do
  let (t, rest) ← scanNumber .endInValue bs
  return (← t.value, rest)

def skipNumber (bs : List UInt8) : Except Flaw (List UInt8) :=
  (scanNumber .invalidNumber bs).map (·.2)

end Matchmaking.Json
