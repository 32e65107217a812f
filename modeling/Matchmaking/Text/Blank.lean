/-!
# Blank characters

The characters that count as white space in settings, annotations and dates, and the two ways of
cutting them off a text. Main statement: trimming empties exactly the texts that are all blank.
-/

namespace Matchmaking.Text

/-- The code points with the Unicode property White_Space. A zero-width space (U+200B), a byte
order mark (U+FEFF) and the separators U+001C to U+001F are not among them. -/
def blankPoints : List (Nat × Nat) :=
  [(0x09, 0x0D), (0x20, 0x20), (0x85, 0x85), (0xA0, 0xA0), (0x1680, 0x1680), (0x2000, 0x200A),
   (0x2028, 0x2029), (0x202F, 0x202F), (0x205F, 0x205F), (0x3000, 0x3000)]

def isBlank (c : Char) : Bool :=
  blankPoints.any fun (first, last) => first ≤ c.toNat && c.toNat ≤ last

def dropBlank (cs : List Char) : List Char := cs.dropWhile isBlank

def trimChars (cs : List Char) : List Char :=
  (dropBlank (dropBlank cs).reverse).reverse

/-- Whether a text holds nothing but blanks; the empty text does. -/
def isBlankText (s : String) : Bool := s.toList.all isBlank

theorem dropBlank_eq_nil_iff {cs : List Char} : dropBlank cs = [] ↔ ∀ c ∈ cs, isBlank c = true := by
  induction cs with
  | nil => simp [dropBlank]
  | cons c cs ih => by_cases h : isBlank c <;> simp_all [dropBlank]

@[simp] theorem trimChars_eq_nil_iff {cs : List Char} :
    trimChars cs = [] ↔ ∀ c ∈ cs, isBlank c = true := by
  rw [trimChars, List.reverse_eq_nil_iff, dropBlank_eq_nil_iff]
  constructor
  · intro h
    induction cs with
    | nil => simp
    | cons c cs ih => by_cases hc : isBlank c <;> simp_all [dropBlank]
  · intro h c hc
    exact h c (List.dropWhile_sublist _ |>.subset (List.mem_reverse.1 hc))

end Matchmaking.Text
