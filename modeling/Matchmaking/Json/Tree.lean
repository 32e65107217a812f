import Matchmaking.Json.Reader
import Matchmaking.Json.Value

/-!
# Reading any value

A value of no particular type is read as it is, with the members of each object sorted by name and
the last of several members of one name kept. Its depth is bounded.
-/

namespace Matchmaking.Json

/-- Puts a member in its place among members sorted by name, over any member of its name. -/
def insertSorted {α : Type} (name : String) (a : α) : List (String × α) → List (String × α)
  | [] => [(name, a)]
  | (other, b) :: rest =>
    if name < other then (name, a) :: (other, b) :: rest
    else if name = other then (name, a) :: rest
    else (other, b) :: insertSorted name a rest

def depthLimit : Nat := 127

/-- A value that was found with what its container holds, if it is one. -/
def Found.value? : Found → Option Value
  | .null => some .null
  | .flag b => some (.flag b)
  | .integer n => some (.integer n)
  | .float x => some (.float x)
  | .text s => some (.text s)
  | .list => none
  | .object => none

/-- Reads any value with at most `depth` containers within one another. -/
def Reader.tree : (depth : Nat) → Reader Value
  | 0 => do
    match (← Reader.found).value? with
    | some v => return v
    | none => Reader.reject .tooDeep
  | depth + 1 => do
    match ← Reader.found with
    | .list => return .list (← Reader.list (Reader.tree depth))
    | .object =>
      Reader.advance
      let add (name : String) (members : List (String × Value)) := do
        Reader.colon
        let v ← Reader.within (.member name) (Reader.tree depth)
        return insertSorted name v members
      let members ← Reader.object add []
      Reader.advance
      return .object members
    | other => return other.value?.getD .null

/-- Reads any value that lies inside so many containers of its document. -/
def Reader.any (above : Nat) : Reader Value := Reader.tree (depthLimit - above)

end Matchmaking.Json
