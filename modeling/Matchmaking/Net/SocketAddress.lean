import Matchmaking.Number.Width
import Matchmaking.Text.Numeral
import Matchmaking.Text.Quoted

/-!
# Socket addresses

An address of version 4 or 6 with a port, read from and written as text. Version 6 is written with
its first longest run of zero groups left out, and as a mapped address of version 4 if it is one.
-/

namespace Matchmaking.Net

open Text Number

inductive SocketAddress where
  | v4 (octets : List Nat) (port : Nat)
  | v6 (groups : List Nat) (scope port : Nat)
  deriving DecidableEq, Repr

namespace SocketAddress

/-- A reader of the front of a text. -/
abbrev Scanner := StateT (List Char) Option

def char (mark : Char) : Scanner Unit := fun
  | c :: cs => if c = mark then some ((), cs) else none
  | [] => none

def spanDigits (base : Nat) : List Char → List Nat × List Char
  | [] => ([], [])
  | c :: cs =>
    match digitIn? base c with
    | none => ([], c :: cs)
    | some d => ((spanDigits base cs).map (d :: ·) id)

/-- Reads a number up to `most` in a base, of at most `width` digits if a width is given. Zeros in
front are allowed only if `padded`. -/
def number (base : Nat) (width : Option Nat) (padded : Bool) (most : Nat) : Scanner Nat := fun cs =>
  let (ds, rest) := spanDigits base cs
  let n := ds.foldl (fun n d => n * base + d) 0
  if ds = [] then none
  else if (width.any fun w => w < ds.length) then none
  else if !padded && 1 < ds.length && ds.head? == some 0 then none
  else if n ≤ most then some (n, rest)
  else none

def octets : Scanner (List Nat) := do
  let octet := number 10 (some 3) false 255
  let a ← octet
  char '.'
  let b ← octet
  char '.'
  let c ← octet
  char '.'
  let d ← octet
  return [a, b, c, d]

/-- Reads a part after a colon, or without one if it is the first. -/
def afterColon {α : Type} (first : Bool) (read : Scanner α) : Scanner α := do
  if !first then char ':'
  read

/-- Reads at most `room` groups of version 6, the last two of which may be an address of version 4;
`first` tells whether no group has been read yet. The second part of the result tells whether they
were. -/
def groups : (room : Nat) → (first : Bool) → List Char → (List Nat × Bool) × List Char
  | 0, _, cs => (([], false), cs)
  | room + 1, first, cs =>
    match if room = 0 then none else afterColon first octets cs with
    | some ([a, b, c, d], rest) => (([a * 256 + b, c * 256 + d], true), rest)
    | _ =>
      match afterColon first (number 16 (some 4) true 65535) cs with
      | none => (([], false), cs)
      | some (g, rest) =>
        let ((gs, mapped), rest) := groups room false rest
        ((g :: gs, mapped), rest)

def segments : Scanner (List Nat) := do
  let (front, mapped) ← (fun cs => some (groups 8 true cs))
  if front.length = 8 then return front
  if mapped then failure
  char ':'
  char ':'
  let (back, _) ← (fun cs => some (groups (7 - front.length) true cs))
  return front ++ List.replicate (8 - front.length - back.length) 0 ++ back

/-- Reads a scope, if there is one; no scope is scope zero. -/
def scope : Scanner Nat := fun cs =>
  match (do char '%'; number 10 none true mostUnsigned32) cs with
  | some r => some r
  | none => some (0, cs)

def port : Scanner Nat := do
  char ':'
  number 10 none true 65535

def scanV4 : Scanner SocketAddress := do
  let os ← octets
  return .v4 os (← port)

def scanV6 : Scanner SocketAddress := do
  char '['
  let gs ← segments
  let s ← scope
  char ']'
  return .v6 gs s (← port)

def parse? (s : String) : Option SocketAddress :=
  match scanV4 s.toList with
  | some (a, []) => some a
  | _ =>
    match scanV6 s.toList with
    | some (a, []) => some a
    | _ => none

def invalidText : String := "invalid socket address syntax"

/-! ## Writing -/

def octetsText (os : List Nat) : String := String.intercalate "." (os.map toString)

def groupsText (gs : List Nat) : String :=
  String.intercalate ":" (gs.map fun g => String.ofList (hexDigits g))

/-- The start and length of the first longest run of zeros. -/
def longestZeros (gs : List Nat) : Nat × Nat :=
  let step := fun ((best, run, place) : (Nat × Nat) × (Nat × Nat) × Nat) (g : Nat) =>
    let run := if g = 0 then (if run.2 = 0 then (place, 1) else (run.1, run.2 + 1)) else (0, 0)
    (if best.2 < run.2 then run else best, run, place + 1)
  (gs.foldl step ((0, 0), (0, 0), 0)).1

/-- Groups of version 6 as text, the first longest run of two or more zeros left out. -/
def compressedText (gs : List Nat) : String :=
  let (start, length) := longestZeros gs
  if length < 2 then groupsText gs
  else groupsText (gs.take start) ++ "::" ++ groupsText (gs.drop (start + length))

/-- An address of version 6 as text. -/
def segmentsText (gs : List Nat) : String :=
  match gs with
  | [0, 0, 0, 0, 0, 0xFFFF, a, b] =>
    "::ffff:" ++ octetsText [a / 256, a % 256, b / 256, b % 256]
  | _ => compressedText gs

/-- An address with its port as text; scope zero is left out. -/
def text : SocketAddress → String
  | .v4 os port => octetsText os ++ ":" ++ toString port
  | .v6 gs 0 port => "[" ++ segmentsText gs ++ "]:" ++ toString port
  | .v6 gs scope port => "[" ++ segmentsText gs ++ "%" ++ toString scope ++ "]:" ++ toString port

end SocketAddress

end Matchmaking.Net
