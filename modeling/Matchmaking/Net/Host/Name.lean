import Matchmaking.Net.Host.Direction
import Matchmaking.Net.Host.FoldingTable
import Matchmaking.Net.Host.Joining
import Matchmaking.Net.Host.Punycode
import Matchmaking.Text.Composition

/-!
# Host names

The one spelling of a host name: its characters are folded and composed, each label between dots is
judged, and labels that are not ASCII are written in ASCII behind four characters that say so.
-/

namespace Matchmaking.Net.Host

open Text

/-- What a character becomes in a host name, if it is allowed at all. -/
def fold? (c : Char) : Option (List Char) :=
  if Punycode.isBasic c then some [c.toLower]
  else match Table.spelling? foldings c with
    | some cs => some cs
    | none =>
      if Table.covers droppedRanges c then some []
      else if Table.covers permittedRanges c then some [c]
      else none

def folded? (cs : List Char) : Option (List Char) :=
  (cs.mapM fold?).map fun parts => composed parts.flatten

/-- What stands in front of a label that is written in ASCII for other characters. -/
def asciiMark : List Char := ['x', 'n', '-', '-']

/-- Whether a label has its one form: no character folds, and nothing is left to compose. -/
def isFolded (cs : List Char) : Bool := cs.all (fun c => fold? c == some [c]) && composed cs == cs

/-- The most characters that a label may have behind the mark. -/
def mostEncoded : Nat := 2000

def mostShown : Nat := 1000

/-- The characters that a label stands for. A label in ASCII has to stand for a label that is not,
and that needs no folding. -/
def shown? (label : List Char) : Option (List Char) :=
  if asciiMark.isPrefixOf label then do
    let encoded := label.drop asciiMark.length
    let cs ← if mostEncoded < encoded.length then none else Punycode.decode? encoded
    if cs.all Punycode.isBasic ∨ asciiMark.isPrefixOf cs ∨ !isFolded cs then none else some cs
  else some label

def asciiLabel? (cs : List Char) : Option (List Char) :=
  if cs.all Punycode.isBasic then some cs
  else if mostShown < cs.length then none
  else some (asciiMark ++ Punycode.encode cs)

/-- What no host name may contain, controls aside. -/
def nameForbidden : List Char :=
  [' ', '#', '%', '/', ':', '<', '>', '?', '@', '[', '\\', ']', '^', '|', '\x7f']

/-- Whether a label is well formed: no forbidden character, no mark at its start, no joiner where it
makes no difference. -/
def isLabel (cs : List Char) : Bool :=
  cs.all (fun c => 0x20 ≤ c.toNat && !nameForbidden.contains c) &&
    !cs.head?.any isMark && joinersFit [] cs

/-- The one spelling of a host name. -/
def name? (cs : List Char) : Option (List Char) := do
  let labels ← (piecesAt '.' (← folded? cs)).mapM shown?
  if labels.all isLabel ∧ Direction.labelsFit (labels.map (·.map directionOf)) then
    (labels.mapM asciiLabel?).map (joinPieces '.')
  else none

end Matchmaking.Net.Host
