import Matchmaking.Text.Alphanumeric
import Matchmaking.Text.Numeral

/-!
# Patterns

Which texts are regular expressions. Groups nest, classes nest inside brackets and have ranges that
ascend, and an operator that repeats stands behind something to repeat. Escapes that would need the
properties of characters are not available, and nor is leaving case aside.
-/

namespace Matchmaking.Service.Pattern

open Text

/-! ## Escapes -/

/-- What an escape stands for. -/
inductive Escape where
  | literal (c : Char)
  /-- The start or the end of the text. -/
  | edge
  deriving DecidableEq, Repr

def namedLiterals : List (Char × Char) :=
  [('a', '\u0007'), ('f', '\u000c'), ('t', '\t'), ('n', '\n'), ('r', '\r'), ('v', '\u000b')]

def digitCounts : List (Char × Nat) := [('x', 2), ('u', 4), ('U', 8)]

def codePoint? (ds : List Char) : Option Nat :=
  (ds.mapM (digitIn? 16)).map fun vs => vs.foldl (fun n v => n * 16 + v) 0

def coded? (count : Nat) (cs : List Char) : Option (Escape × List Char) :=
  if cs.length < count then none
  else (codePoint? (cs.take count)).bind fun n =>
    if n.isValidChar then some (.literal (Char.ofNat n), cs.drop count) else none

def escape? : List Char → Option (Escape × List Char)
  | [] => none
  | c :: rest =>
    match digitCounts.lookup c with
    | some count => coded? count rest
    | none =>
      match namedLiterals.lookup c with
      | some l => some (.literal l, rest)
      | none =>
        if c = 'A' ∨ c = 'z' then some (.edge, rest)
        else if c.isAlphanum ∨ c = '<' ∨ c = '>' ∨ 0x7F < c.toNat then none
        else some (.literal c, rest)

/-! ## Classes -/

def namedClasses : List String :=
  ["alnum", "alpha", "ascii", "blank", "cntrl", "digit", "graph", "lower", "print", "punct",
   "space", "upper", "word", "xdigit"]

def namedClass? (cs : List Char) : Option (List Char) :=
  match cs with
  | ':' :: rest =>
    let rest := if rest.head? = some '^' then rest.tail else rest
    let (name, rest) := rest.span Char.isAlpha
    match rest with
    | ':' :: ']' :: rest => if namedClasses.contains (String.ofList name) then some rest else none
    | _ => none
  | _ => none

/-- What is left of a class behind its bracket, the sign for all others, and the characters that
stand for themselves only there. -/
def opened (cs : List Char) : List Char :=
  let cs := if cs.head? = some '^' then cs.tail else cs
  match cs with
  | ']' :: rest => rest
  | _ => cs.dropWhile (· = '-')

def member? : List Char → Option (Escape × List Char)
  | [] => none
  | '\\' :: rest => escape? rest
  | c :: rest => some (.literal c, rest)

/-- Reads a character of a class, or a range of them. -/
def members? (cs : List Char) : Option (List Char) := do
  let (first, rest) ← member? cs
  match first, rest with
  | .edge, _ => none
  | .literal low, '-' :: next :: more =>
    if next = ']' ∨ next = '-' then some rest
    else match ← member? (next :: more) with
      | (.literal high, rest) => if low ≤ high then some rest else none
      | (.edge, _) => none
  | .literal _, ['-'] => none
  | .literal _, rest => some rest

/-- Reads the rest of classes that are open inside one another, so many of them around the innermost
one. -/
def class? : (fuel around : Nat) → List Char → Option (List Char)
  | 0, _, _ => none
  | fuel + 1, around, cs =>
    match cs with
    | [] => none
    | ']' :: rest =>
      match around with
      | 0 => some rest
      | around + 1 => class? fuel around rest
    | '[' :: rest =>
      match namedClass? rest with
      | some rest => class? fuel around rest
      | none => class? fuel (around + 1) (opened rest)
    | '&' :: '&' :: rest | '-' :: '-' :: rest | '~' :: '~' :: rest => class? fuel around rest
    | cs => (members? cs).bind (class? fuel around)

/-! ## Groups -/

def flagLetters : List Char := ['i', 'm', 's', 'U', 'u', 'R', 'x']

def caselessFlag : Char := 'i'

/-- Reads flags: whether case is left aside after them, and what follows. -/
def flags? (caseless : Bool) (cs : List Char) : Option (Bool × List Char) :=
  let (flags, rest) := cs.span fun c => c ≠ ':' && c ≠ ')'
  let (set, cleared) := flags.span (· ≠ '-')
  let fine := flags.all (fun c => c = '-' || flagLetters.contains c) && decide flags.Nodup &&
    cleared ≠ ['-']
  if !fine ∨ rest = [] then none
  else some ((caseless || set.contains caselessFlag) && !cleared.contains caselessFlag, rest)

def groupName? (cs : List Char) : Option (List Char × List Char) :=
  let (name, rest) := cs.span (· ≠ '>')
  let isStart (c : Char) := c = '_' || (isAlphanumeric c && !c.isDigit)
  let isLater (c : Char) := isAlphanumeric c || ['_', '.', '[', ']'].contains c
  if name.head?.any isStart ∧ name.tail.all isLater ∧ rest ≠ [] then some (name, rest.tail)
  else none

/-- What has been read of a pattern. -/
structure State where
  /-- Whether case is left aside. -/
  caseless : Bool
  /-- For each open group, whether case was left aside outside it. -/
  outside : List Bool
  /-- Whether there is something to repeat. -/
  repeatable : Bool
  /-- The names of groups. -/
  names : List (List Char)

/-- A group opens. -/
def State.enter (s : State) (caseless : Bool) : State :=
  { s with caseless, outside := s.caseless :: s.outside, repeatable := false }

/-- Reads what follows the bracket of a group. -/
def group? (s : State) (cs : List Char) : Option (State × List Char) :=
  let named (cs : List Char) := do
    let (name, rest) ← groupName? cs
    if s.names.contains name then none
    else some ({ s.enter s.caseless with names := name :: s.names }, rest)
  match cs with
  | '?' :: 'P' :: '<' :: rest | '?' :: '<' :: rest => named rest
  | '?' :: rest =>
    match flags? s.caseless rest with
    | some (caseless, ':' :: after) => some (s.enter caseless, after)
    | some (caseless, ')' :: after) =>
      if rest.head? = some ')' then none else some ({ s with caseless, repeatable := false }, after)
    | _ => none
  | _ => some (s.enter s.caseless, cs)

/-! ## Patterns -/

def step? (s : State) (c : Char) (rest : List Char) : Option (State × List Char) :=
  let done := { s with repeatable := true }
  match c with
  | '(' => group? s rest
  | ')' =>
    match s.outside with
    | [] => none
    | caseless :: outside => some ({ done with caseless, outside }, rest)
  | '|' => some ({ s with repeatable := false }, rest)
  | '?' | '*' | '+' =>
    if s.repeatable then some (done, if rest.head? = some '?' then rest.tail else rest) else none
  | '\x7b' => none
  | '.' | '^' | '$' => some (done, rest)
  | '[' => if s.caseless then none else (class? (rest.length + 1) 0 (opened rest)).map (done, ·)
  | '\\' =>
    match escape? rest with
    | some (.edge, rest) => some (done, rest)
    | some (.literal _, rest) => if s.caseless then none else some (done, rest)
    | none => none
  | _ => if s.caseless then none else some (done, rest)

def complete : (fuel : Nat) → State → List Char → Bool
  | _, s, [] => s.outside = []
  | 0, _, _ => false
  | fuel + 1, s, c :: rest =>
    match step? s c rest with
    | some (s, rest) => complete fuel s rest
    | none => false

/-- Whether a text is a pattern. A number of repetitions in braces is not available. -/
def isWellFormed (cs : List Char) : Bool := complete cs.length ⟨false, [], false, []⟩ cs

end Matchmaking.Service.Pattern
