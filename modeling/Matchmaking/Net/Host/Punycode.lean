/-!
# Names in ASCII

A label with characters of any script is written with ASCII alone: its ASCII characters come first,
and after a hyphen numbers in a base of thirty-six tell which others belong where. The numbers are
differences, and their digits adapt to how large the differences have been.
-/

namespace Matchmaking.Net.Host.Punycode

def digitChar (d : Nat) : Char :=
  if d < 26 then Char.ofNat (0x61 + d) else Char.ofNat (0x30 + (d - 26))

def digit? (c : Char) : Option Nat :=
  if 'a' ≤ c ∧ c ≤ 'z' then some (c.toNat - 0x61)
  else if 'A' ≤ c ∧ c ≤ 'Z' then some (c.toNat - 0x41)
  else if '0' ≤ c ∧ c ≤ '9' then some (c.toNat - 0x30 + 26)
  else none

/-- The digits below this are the last ones of a number; `place` counts in steps of thirty-six. -/
def threshold (bias place : Nat) : Nat := max 1 (min 26 (place - bias))

theorem threshold_pos (bias place : Nat) : 0 < threshold bias place := by
  unfold threshold; omega

/-- The bias that fits a difference of some size. -/
def fit (delta place : Nat) : Nat :=
  if 455 < delta then fit (delta / 35) (place + 36) else place + 36 * delta / (delta + 38)
termination_by delta
decreasing_by omega

/-- The bias after a difference, when `count` characters are in place. -/
def adapt (delta count : Nat) (first : Bool) : Nat :=
  let delta := if first then delta / 700 else delta / 2
  fit (delta + delta / count) 0

def firstBias : Nat := 72

def firstPoint : Nat := 128

def isBasic (c : Char) : Bool := c.toNat < firstPoint

/-! ## Writing -/

def number (bias place n : Nat) : List Char :=
  let t := threshold bias place
  if n < t then [digitChar n]
  else digitChar (t + (n - t) % (36 - t)) :: number bias (place + 36) ((n - t) / (36 - t))
termination_by n
decreasing_by
  have := threshold_pos bias place
  exact Nat.lt_of_le_of_lt (Nat.div_le_self _ _) (by omega)

/-- Where a writer stands. -/
structure Writer where
  delta : Nat
  bias : Nat
  /-- How many characters are in place. -/
  count : Nat
  digits : List Char

/-- Passes a character while code point `n` is put in place; `basic` characters were in place at
the start. -/
def Writer.pass (basic n : Nat) (w : Writer) (c : Char) : Writer :=
  if c.toNat < n then { w with delta := w.delta + 1 }
  else if c.toNat = n then
    { delta := 0
      bias := adapt w.delta (w.count + 1) (w.count == basic)
      count := w.count + 1
      digits := w.digits ++ number w.bias 36 w.delta }
  else w

/-- Puts code points in place, in ascending order; all below `next` are in place. -/
def putAll (cs : List Char) (basic : Nat) : (next : Nat) → Writer → List Nat → Writer
  | _, w, [] => w
  | next, w, n :: ns =>
    let w := { w with delta := w.delta + (n - next) * (w.count + 1) }
    let w := cs.foldl (Writer.pass basic n) w
    putAll cs basic (n + 1) { w with delta := w.delta + 1 } ns

def encode (cs : List Char) : List Char :=
  let basic := cs.filter isBasic
  let others := ((cs.filter (!isBasic ·)).map Char.toNat).mergeSort.eraseDups
  let w := putAll cs basic.length firstPoint ⟨0, firstBias, basic.length, []⟩ others
  basic ++ (if basic = [] then [] else ['-']) ++ w.digits

/-! ## Reading -/

/-- Reads a number onto `n`, each digit weighing more than the one before it, and what follows. -/
def number? (bias : Nat) : (place weight n : Nat) → List Char → Option (Nat × List Char)
  | _, _, _, [] => none
  | place, weight, n, c :: cs => do
    let d ← digit? c
    let t := threshold bias place
    if d < t then some (n + d * weight, cs)
    else number? bias (place + 36) (weight * (36 - t)) (n + d * weight) cs

theorem length_lt_of_number? {bias place weight n m : Nat} {cs rest : List Char}
    (h : number? bias place weight n cs = some (m, rest)) : rest.length < cs.length := by
  induction cs generalizing place weight n with
  | nil => simp [number?] at h
  | cons c cs ih =>
    rw [number?] at h
    cases hd : digit? c with
    | none => simp [hd] at h
    | some d =>
      simp only [hd, Option.bind_eq_bind, Option.bind_some] at h
      split at h
      · cases h; simp
      · exact Nat.lt_succ_of_lt (ih h)

/-- Whether a number is the code point of a character. -/
def isPoint (n : Nat) : Bool := n < 0xD800 || (0xDFFF < n && n < 0x110000)

/-- Puts characters in place as the digits say. -/
def insertAll? (bias point place : Nat) (cs : List Char) (digits : List Char) :
    Option (List Char) :=
  if digits = [] then some cs
  else
    match h : number? bias 36 1 place digits with
    | none => none
    | some (total, rest) =>
      let count := cs.length + 1
      let point := point + total / count
      let place' := total % count
      if isPoint point then
        insertAll? (adapt (total - place) count (place == 0)) point (place' + 1)
          (cs.insertIdx place' (Char.ofNat point)) rest
      else none
termination_by digits.length
decreasing_by exact length_lt_of_number? h

/-- Reads a label in ASCII: what stands before the last hyphen, with the others put in place. -/
def decode? (cs : List Char) : Option (List Char) :=
  let (back, front) := cs.reverse.span (· ≠ '-')
  match front with
  | [] | [_] => insertAll? firstBias firstPoint 0 [] cs
  | _ :: basic =>
    if basic.all isBasic then insertAll? firstBias firstPoint 0 basic.reverse back.reverse
    else none

end Matchmaking.Net.Host.Punycode
