import Matchmaking.Json.Reader
import Matchmaking.Json.Value

/-!
# Labels

A set of names with a text each, such as the labels and annotations of a server. Main statement: a
label that is set reads back, and setting it leaves the others alone.
-/

namespace Matchmaking

/-- Names with a text each, in the order in which they were first set. -/
structure Labels where
  entries : List (String × String)
  deriving DecidableEq, Repr, Inhabited

namespace Labels

def empty : Labels := ⟨[]⟩

def single (name value : String) : Labels := ⟨[(name, value)]⟩

def get? (labels : Labels) (name : String) : Option String := labels.entries.lookup name

/-- Sets a name in a list of entries, in place if it is there. -/
def setEntry (name value : String) : List (String × String) → List (String × String)
  | [] => [(name, value)]
  | (other, old) :: rest =>
    if other = name then (name, value) :: rest else (other, old) :: setEntry name value rest

def set (labels : Labels) (name value : String) : Labels := ⟨setEntry name value labels.entries⟩

/-- The labels of entries, the last text of each name counting. -/
def ofList (entries : List (String × String)) : Labels :=
  entries.foldl (fun labels (name, value) => labels.set name value) empty

theorem get?_set (labels : Labels) (name value other : String) :
    (labels.set name value).get? other =
      if other = name then some value else labels.get? other := by
  simp only [set, get?]
  induction labels.entries with
  | nil =>
    have hb : (other == name) = decide (other = name) := rfl
    by_cases h : other = name <;> simp [setEntry, List.lookup_cons, hb, h]
  | cons e rest ih =>
    obtain ⟨key, old⟩ := e
    by_cases h : other = key
    · subst h
      by_cases hk : other = name <;> simp [setEntry, hk]
    · have hb : (other == key) = false := by simpa using h
      by_cases hk : key = name
      · subst hk
        simp [setEntry, List.lookup_cons, h, hb]
      · simp [setEntry, List.lookup_cons, hk, hb, ih]

def toJson (labels : Labels) : Json.Value :=
  .object (labels.entries.map fun (name, value) => (name, .text value))

def reader : Json.Reader Labels := do
  match ← Json.Reader.peek with
  | none => Json.Reader.reject .endInValue
  | some 0x7B =>
    Json.Reader.advance
    let add (name : String) (labels : Labels) : Json.Reader Labels := do
      Json.Reader.colon
      return labels.set name (← Json.Reader.within (.member name) Json.Reader.text)
    let labels ← Json.Reader.object add empty
    Json.Reader.advance
    return labels
  | some _ => Json.Reader.mismatch "a map"

end Labels

end Matchmaking
