import Matchmaking.Json.Fault
import Matchmaking.Text.Utf8

/-!
# Reading a JSON text

The body of a text is read byte by byte up to its closing quote, escapes decoded, and only then
judged as UTF-8. The machine takes one byte at each step, so reading ends with its input.
-/

namespace Matchmaking.Json

open Matchmaking.Text

/-- Where the reader of a text stands between two bytes. -/
inductive TextState where
  /-- Between characters. -/
  | plain
  /-- After a backslash. -/
  | escape
  /-- After `\u`, with the bytes seen since, last first, and a leading surrogate if one came just
  before. -/
  | hex (seen : List UInt8) (lead : Option Nat)
  /-- After a leading surrogate. -/
  | paired (lead : Nat)
  /-- After a leading surrogate and a backslash. -/
  | pairedEscape (lead : Nat)
  deriving DecidableEq, Repr

def escapedByte? (b : UInt8) : Option UInt8 :=
  if b == 0x22 || b == 0x5C || b == 0x2F then some b
  else if b == 0x62 then some 0x08
  else if b == 0x66 then some 0x0C
  else if b == 0x6E then some 0x0A
  else if b == 0x72 then some 0x0D
  else if b == 0x74 then some 0x09
  else none

def hexValue? (b : UInt8) : Option Nat :=
  if 0x30 ≤ b && b ≤ 0x39 then some (b.toNat - 0x30)
  else if 0x41 ≤ b && b ≤ 0x46 then some (b.toNat - 0x37)
  else if 0x61 ≤ b && b ≤ 0x66 then some (b.toNat - 0x57)
  else none

/-- The number that four hexadecimal digits stand for. -/
def hexUnit? (bs : List UInt8) : Option Nat :=
  (bs.mapM hexValue?).map fun ds => ds.foldl (fun n d => n * 16 + d) 0

/-- Whether a UTF-16 unit is the first of a pair. -/
def isLead (n : Nat) : Bool := 0xD800 ≤ n && n ≤ 0xDBFF

def isTrail (n : Nat) : Bool := 0xDC00 ≤ n && n ≤ 0xDFFF

/-- The UTF-8 bytes of a code point. -/
def codePointBytes (n : Nat) : List UInt8 := String.utf8EncodeChar (Char.ofNat n)

/-- How a text is read: for its content, or only to pass over it. -/
inductive TextMode where
  | read
  | pass
  deriving DecidableEq, Repr

/-- The next state, with the bytes that have been decoded, after the unit of a `\u` escape. A text
that is passed over may hold surrogates of any kind. -/
def afterUnit (mode : TextMode) (unit : Nat) : Option Nat → Except Flaw (TextState × List UInt8)
  | none =>
    if mode = .pass then .ok (.plain, [])
    else if isTrail unit then .error .loneSurrogate
    else if isLead unit then .ok (.paired unit, [])
    else .ok (.plain, codePointBytes unit)
  | some lead =>
    if isTrail unit then
      .ok (.plain, codePointBytes (0x10000 + (lead - 0xD800) * 0x400 + (unit - 0xDC00)))
    else .error .loneSurrogate

/-- The next state, with the bytes that have been decoded, after a byte other than the closing
quote. -/
def TextState.next (mode : TextMode) (state : TextState) (b : UInt8) :
    Except Flaw (TextState × List UInt8) :=
  match state with
  | .plain =>
    if b == 0x5C then .ok (.escape, [])
    else if b < 0x20 then .error .controlCharacter
    else .ok (.plain, [b])
  | .escape =>
    if b == 0x75 then .ok (.hex [] none, [])
    else match escapedByte? b with
      | some c => .ok (.plain, [c])
      | none => .error .invalidEscape
  | .hex seen lead =>
    if seen.length < 3 then .ok (.hex (b :: seen) lead, [])
    else match hexUnit? (b :: seen).reverse with
      | none => .error .invalidEscape
      | some unit => afterUnit mode unit lead
  | .paired lead => if b == 0x5C then .ok (.pairedEscape lead, []) else .error .endInEscape
  | .pairedEscape lead => if b == 0x75 then .ok (.hex [] (some lead), []) else .error .endInEscape

/-- Reads up to the closing quote: the decoded bytes and what follows. `decoded` holds the bytes
decoded so far, last first. -/
def scanText (mode : TextMode) (state : TextState) (decoded : List UInt8) :
    List UInt8 → Except Flaw (List UInt8 × List UInt8)
  | [] => .error .endInText
  | b :: bs =>
    if state = .plain ∧ b = 0x22 then .ok (decoded.reverse, bs)
    else match state.next mode b with
      | .error e => .error e
      | .ok (state, more) => scanText mode state (more.reverse ++ decoded) bs

def readTextBody (bs : List UInt8) : Except Flaw (String × List UInt8) :=
  match scanText .read .plain [] bs with
  | .error e => .error e
  | .ok (decoded, rest) =>
    match ofBytes? decoded with
    | some s => .ok (s, rest)
    | none => .error .invalidCodePoint

/-- Passes over a text after its opening quote; its bytes need not be UTF-8. -/
def skipTextBody (bs : List UInt8) : Except Flaw (List UInt8) :=
  (scanText .pass .plain [] bs).map (·.2)

end Matchmaking.Json
