import Matchmaking.Net.Url.Basic

/-!
# Paths of locators

A path is walked segment by segment: one dot stays, two go up, and whatever else there is goes down.
No way leads up from a segment that names a drive. Main statement: a path that is walked starts with
a slash.
-/

namespace Matchmaking.Net.Url

open Text

def isSlash (special : Bool) (c : Char) : Bool := c == '/' || (special && c == '\\')

/-- How often a segment is a dot and nothing else; a dot may be written with a percent sign. -/
def dots : List Char → Option Nat
  | [] => some 0
  | '.' :: rest => (dots rest).map (· + 1)
  | '%' :: '2' :: e :: rest => if e = 'e' ∨ e = 'E' then (dots rest).map (· + 1) else none
  | _ => none

/-- The letter of a drive at the front of a segment, and what follows it. -/
def driveLetter? : List Char → Option (Char × List Char)
  | c :: mark :: rest => if c.isAlpha ∧ (mark = ':' ∨ mark = '|') then some (c, rest) else none
  | _ => none

/-- Whether a segment is the name of a drive. -/
def isDrive (segment : List Char) : Bool := (driveLetter? segment).any (·.2 = [])

/-- Whether no way leads up from a segment: it is the name of a drive, or goes on with a backslash
after one. -/
def isTop (segment : String) : Bool :=
  match driveLetter? segment.toList with
  | some (_, rest) => rest = [] || rest.head? == some '\\'
  | none => false

/-- The trail one segment up, of a trail with the last segment first. -/
def up : List String → List String
  | [] => []
  | s :: trail => if isTop s then s :: trail else trail

/-- A segment as it is written on a trail. The first segment of a path on the machine itself may be
a drive. -/
def written (files : Bool) (trail : List String) (segment : List Char) : String :=
  match driveLetter? segment with
  | some (c, []) =>
    if files ∧ trail = [] then String.ofList [c, ':'] else Percent.encode pathReserved segment
  | _ => Percent.encode pathReserved segment

/-- The trail that segments lead to from a trail, with the last segment first; `files` tells whether
the path lies on the machine itself. -/
def walk (files : Bool) : (trail : List String) → List (List Char) → List String
  | trail, [] => trail
  | trail, segment :: rest =>
    let stop (trail : List String) := if rest = [] then "" :: trail else trail
    let trail := match dots segment with
      | some 1 => stop trail
      | some 2 => stop (up trail)
      | _ => written files trail segment :: trail
    walk files trail rest

def trailText (trail : List String) : String :=
  String.ofList (trail.reverse.flatMap fun s => '/' :: s.toList)

/-- The trail to the segments of a path. -/
def trailOf (path : String) : List String :=
  (((piecesAt '/' path.toList).drop 1).map String.ofList).reverse

def dropSlash (special : Bool) (cs : List Char) : List Char :=
  if cs.head?.any (isSlash special) then cs.tail else cs

/-- The path after an authority: none at all if nothing is there and the scheme allows it. -/
def absolutePath (special : Bool) (cs : List Char) : String :=
  if cs = [] ∧ special = false then ""
  else trailText (walk false [] (pieces (isSlash special) (dropSlash special cs)))

/-- The path that characters lead to from another path. -/
def joinPath (base : String) (cs : List Char) : String :=
  if cs.head?.any (isSlash true) then absolutePath true cs
  else trailText (walk false (trailOf base).tail (pieces (isSlash true) cs))

/-- The path of what lies on the machine itself, and whether it starts at a drive. Slashes at its
start count as one. -/
def filePath (cs : List Char) : String × Bool :=
  let trail := walk true [] (pieces (isSlash true) (dropSlash true cs))
  let path := (trailText trail).toList.dropWhile (· == '/')
  (String.ofList ('/' :: path), trail.getLast?.any fun s => isDrive s.toList)

theorem walk_ne_nil (files : Bool) (trail : List String) (segment : List Char)
    (rest : List (List Char)) : walk files trail (segment :: rest) ≠ [] := by
  induction rest generalizing trail segment with
  | nil =>
    simp only [walk, if_true]
    cases dots segment with
    | none => exact List.cons_ne_nil _ _
    | some n => rcases n with _ | _ | _ | n <;> exact List.cons_ne_nil _ _
  | cons next rest ih => unfold walk; exact ih _ next

/-- A path after an authority is empty or starts with a slash. -/
theorem head_absolutePath (special : Bool) (cs : List Char) (h : absolutePath special cs ≠ "") :
    (absolutePath special cs).toList.head? = some '/' := by
  unfold absolutePath at h ⊢
  split at h
  · simp at h
  · rename_i hpath
    rw [if_neg hpath]
    generalize hps : pieces (isSlash special) (dropSlash special cs) = ps
    cases ps with
    | nil => exact absurd hps (pieces_ne_nil _ _)
    | cons p ps =>
      have hne := walk_ne_nil false [] p ps
      generalize walk false [] (p :: ps) = trail at hne
      rw [trailText]
      cases hr : trail.reverse with
      | nil => exact absurd (List.reverse_eq_nil_iff.1 hr) hne
      | cons s ss => simp

end Matchmaking.Net.Url
