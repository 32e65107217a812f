import Matchmaking.Service.Directive

/-!
# Which log lines are written

A filter is a list of directives, each with a threshold for the lines of one part of the program.
The most specific directive that applies to a line decides; of equal ones the last written counts.
-/

namespace Matchmaking.Service

structure LogFilter where
  directives : List Directive
  deriving DecidableEq, Repr

namespace LogFilter

/-- The directives of a filter as written: between commas, empty ones aside. -/
def words (s : String) : List (List Char) :=
  ((s.splitOn ",").map String.toList).filter (· ≠ [])

/-- A filter without any directive lets errors through. -/
def ofDirectives (ds : List Directive) : LogFilter :=
  ⟨if ds = [] then [{ Directive.bare with threshold := 1 }] else ds⟩

/-- Reads a filter; one bad directive spoils it. -/
def parse? (s : String) : Option LogFilter :=
  ((words s).mapM Directive.parse?).map ofDirectives

/-- Reads a filter and leaves out bad directives. -/
def parseLenient (s : String) : LogFilter := ofDirectives ((words s).filterMap Directive.parse?)

/-- The filter of two settings: the first if it is set and well formed, else the second. -/
def choose (preferred : Option String) (otherwise : String) : LogFilter :=
  (preferred.bind parse?).getD (parseLenient otherwise)

/-- The directive that decides about a line of a part of the program. -/
def deciding? (f : LogFilter) (part : String) (line : LogLine) : Option Directive :=
  (f.directives.filter fun d => d.isUnconditional && d.applies part line).foldl
    (fun best d =>
      match best with
      | none => some d
      | some b => some (if d.overrides b then d else b)) none

/-- Whether a line of a part of the program is written. -/
def passes (f : LogFilter) (part : String) (line : LogLine) : Bool :=
  (f.deciding? part line).any fun d => line.level.weight ≤ d.threshold

end LogFilter

end Matchmaking.Service
