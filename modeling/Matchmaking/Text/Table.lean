import Matchmaking.Text.Numeral
import Matchmaking.Text.Pieces

/-!
# Tables of code points

Properties of characters are kept as text: words between blanks, in which every number is written
in hexadecimal. A word of a plain table is a code point or a range of them, its ends joined by a
dash. In a table of values each range goes with its value, after an equals sign. In a table of
spellings a word that ends in a colon says which code point the next word is for; the words after
that one are for the code points that follow, each with the spelling's code points joined by plus
signs, and with a lone dash where there is no entry.
-/

namespace Matchmaking.Text.Table

def words (table : String) : List (List Char) :=
  (pieces (fun c => c == ' ' || c == '\n') table.toList).filter (· ≠ [])

def point (w : List Char) : Nat := w.foldl (fun n c => n * 16 + (digitIn? 16 c).getD 0) 0

/-- A range of code points, both ends included. -/
def range (w : List Char) : Nat × Nat :=
  let (first, last) := w.span (· ≠ '-')
  (point first, if last = [] then point first else point last.tail)

def ranges (table : String) : List (Nat × Nat) := (words table).map range

def covers (rs : List (Nat × Nat)) (c : Char) : Bool :=
  rs.any fun (first, last) => first ≤ c.toNat && c.toNat ≤ last

def values (table : String) : List ((Nat × Nat) × Nat) :=
  (words table).map fun w =>
    let (r, value) := w.span (· ≠ '=')
    (range r, point value.tail)

/-- The value of a character; zero if it has no entry. -/
def value (vs : List ((Nat × Nat) × Nat)) (c : Char) : Nat :=
  ((vs.find? fun ((first, last), _) => first ≤ c.toNat && c.toNat ≤ last).map (·.2)).getD 0

/-- Takes one more word of a table of spellings; `next` is the code point that it is for. -/
def addSpelling : Nat × List (Nat × List Char) → List Char → Nat × List (Nat × List Char)
  | (next, entries), w =>
    if w = ['-'] then (next + 1, entries)
    else if w.getLast? = some ':' then (point w.dropLast, entries)
    else (next + 1, (next, (piecesAt '+' w).map fun p => Char.ofNat (point p)) :: entries)

def spellings (table : String) : List (Nat × List Char) :=
  ((words table).foldl addSpelling (0, [])).2.reverse

def spelling? (entries : List (Nat × List Char)) (c : Char) : Option (List Char) :=
  entries.lookup c.toNat

end Matchmaking.Text.Table
