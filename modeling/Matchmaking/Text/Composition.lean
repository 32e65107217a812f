import Matchmaking.Text.CompositionTable
import Matchmaking.Text.Mark

/-!
# Composition

The composed form of a text: every character is taken apart, the marks on it are put in order, and
what one character can stand for is put together again. Equal texts then have equal characters.
-/

namespace Matchmaking.Text

/-! ## Syllables of Hangul -/

namespace Hangul

def firstSyllable : Nat := 0xAC00

/-- The first leading consonant, and how many there are. -/
def leads : Nat × Nat := (0x1100, 19)

/-- The first vowel, and how many there are. -/
def vowels : Nat × Nat := (0x1161, 21)

/-- The code point before the first trailing consonant, and how many ways to end there are. -/
def tails : Nat × Nat := (0x11A7, 28)

/-- The place of a code point in a row that has a start and a length. -/
def place? (row : Nat × Nat) (n : Nat) : Option Nat :=
  if row.1 ≤ n ∧ n < row.1 + row.2 then some (n - row.1) else none

def syllable? (c : Char) : Option Nat :=
  place? (firstSyllable, leads.2 * vowels.2 * tails.2) c.toNat

def apart (s : Nat) : List Char :=
  let lead := leads.1 + s / (vowels.2 * tails.2)
  let vowel := vowels.1 + s / tails.2 % vowels.2
  let tail := tails.1 + s % tails.2
  [lead, vowel].map Char.ofNat ++ if s % tails.2 = 0 then [] else [Char.ofNat tail]

/-- The syllable that two letters, or an open syllable and a letter, make. -/
def together? (a b : Char) : Option Char :=
  match place? leads a.toNat, place? vowels b.toNat, syllable? a, place? tails b.toNat with
  | some lead, some vowel, _, _ =>
    some (Char.ofNat (firstSyllable + (lead * vowels.2 + vowel) * tails.2))
  | _, _, some s, some (tail + 1) =>
    if s % tails.2 = 0 then some (Char.ofNat (a.toNat + tail + 1)) else none
  | _, _, _, _ => none

end Hangul

/-! ## Taking apart and putting together -/

def decompose (c : Char) : List Char :=
  match Hangul.syllable? c with
  | some s => Hangul.apart s
  | none => (Table.spelling? compositions c).getD [c]

def compose? (a b : Char) : Option Char :=
  match Hangul.together? a b with
  | some c => some c
  | none =>
    let whole := decompose a ++ [b]
    (compositions.find? fun (_, parts) => parts == whole).map fun (n, _) => Char.ofNat n

/-- Puts a character in front, behind those marks of lower classes that have to precede it. -/
def insertMark (c : Char) : List Char → List Char
  | [] => [c]
  | d :: ds =>
    if combiningClass d ≠ 0 ∧ combiningClass d < combiningClass c then d :: insertMark c ds
    else c :: d :: ds

def ordered (cs : List Char) : List Char := cs.foldr insertMark []

/-- Puts characters together with the last one that starts anew, as far as possible; `passed` are
the marks on it that stay. A mark is cut off by one of its own class or a higher one. -/
def composeOnto (starter : Char) (passed : List Char) : List Char → List Char
  | [] => starter :: passed
  | c :: cs =>
    let cutOff := passed.getLast?.any fun d => combiningClass c ≤ combiningClass d
    match if cutOff then none else compose? starter c with
    | some whole => composeOnto whole passed cs
    | none =>
      if combiningClass c = 0 then starter :: passed ++ composeOnto c [] cs
      else composeOnto starter (passed ++ [c]) cs

def composeAll : List Char → List Char
  | [] => []
  | c :: cs => if combiningClass c = 0 then composeOnto c [] cs else c :: composeAll cs

def composed (cs : List Char) : List Char := composeAll (ordered (cs.flatMap decompose))

end Matchmaking.Text
