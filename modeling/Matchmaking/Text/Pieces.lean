/-!
# Pieces of a text

Cutting characters at every mark. Main statement: the pieces with one mark between any two of them
are the characters again.
-/

namespace Matchmaking.Text

def consPiece (c : Char) : List (List Char) → List (List Char)
  | [] => [[c]]
  | p :: ps => (c :: p) :: ps

/-- The pieces between the characters that satisfy a test. -/
def pieces (isMark : Char → Bool) (cs : List Char) : List (List Char) :=
  cs.foldr (fun c ps => if isMark c then [] :: ps else consPiece c ps) [[]]

def piecesAt (mark : Char) (cs : List Char) : List (List Char) := pieces (· == mark) cs

@[simp] theorem pieces_nil (isMark : Char → Bool) : pieces isMark [] = [[]] := rfl

theorem pieces_cons (isMark : Char → Bool) (c : Char) (cs : List Char) :
    pieces isMark (c :: cs) =
      if isMark c then [] :: pieces isMark cs else consPiece c (pieces isMark cs) := rfl

theorem pieces_ne_nil (isMark : Char → Bool) (cs : List Char) : pieces isMark cs ≠ [] := by
  induction cs with
  | nil => simp
  | cons c cs ih =>
    rw [pieces_cons]
    cases h : pieces isMark cs with
    | nil => exact absurd h ih
    | cons p ps => split <;> simp [consPiece]

def joinPieces (mark : Char) : List (List Char) → List Char
  | [] => []
  | [p] => p
  | p :: ps => p ++ mark :: joinPieces mark ps

/-- Cutting at a mark loses nothing. -/
theorem joinPieces_piecesAt (mark : Char) (cs : List Char) :
    joinPieces mark (piecesAt mark cs) = cs := by
  induction cs with
  | nil => rfl
  | cons c cs ih =>
    have hne := pieces_ne_nil (· == mark) cs
    unfold piecesAt at ih ⊢
    rw [pieces_cons]
    cases h : pieces (· == mark) cs with
    | nil => exact absurd h hne
    | cons p ps =>
      rw [h] at ih
      by_cases hc : c = mark
      · simp [hc, joinPieces, ih]
      · cases ps with
        | nil => simpa [hc, consPiece, joinPieces] using ih
        | cons q qs => simpa [hc, consPiece, joinPieces] using ih

end Matchmaking.Text
