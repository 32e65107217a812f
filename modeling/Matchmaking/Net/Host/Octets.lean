import Matchmaking.Net.SocketAddress

/-!
# Hosts in numbers

A host whose last part is a number is an address of version 4. Its parts may be decimal, or octal
or hexadecimal by how they start, and the last of them fills what the others leave.
-/

namespace Matchmaking.Net.Host

open Text

/-- The number that a part of a host is. -/
def number? (part : List Char) : Option Nat :=
  let (base, ds) := match part with
    | '0' :: 'x' :: ds => (16, ds)
    | '0' :: d :: ds => (8, d :: ds)
    | ds => (10, ds)
  let (read, rest) := SocketAddress.spanDigits base ds
  if part = [] ∨ rest ≠ [] then none else some (read.foldl (fun n d => n * base + d) 0)

/-- Whether a part of a host can only belong to an address: it is a number, or looks like one. -/
def isNumeric (part : List Char) : Bool :=
  part ≠ [] && (part.all (fun c => '0' ≤ c && c ≤ '9') || (number? part).isSome)

def bytesOf (count n : Nat) : List Nat :=
  (List.range count).map fun i => n / Nat.pow 256 (count - 1 - i) % 256

/-- The address that numbers make, if they are at most four and none is too large. -/
def octetsOf? (numbers : List Nat) : Option (List Nat) :=
  match numbers.getLast? with
  | none => none
  | some last =>
    let front := numbers.dropLast
    let room := 4 - front.length
    if 4 < numbers.length ∨ front.any (255 < ·) ∨ Nat.pow 256 room ≤ last then none
    else some (front ++ bytesOf room last)

/-- The address that the parts of a host make. -/
def octets? (parts : List (List Char)) : Option (List Nat) :=
  (parts.mapM number?).bind octetsOf?

/-- An address has four bytes. -/
theorem length_of_octetsOf? {numbers os : List Nat} (h : octetsOf? numbers = some os) :
    os.length = 4 := by
  unfold octetsOf? at h
  cases hl : numbers.getLast? with
  | none => simp [hl] at h
  | some last =>
    simp only [hl] at h
    split at h
    · simp at h
    · rename_i hfits
      have hne : numbers ≠ [] := by
        intro hnil
        simp [hnil] at hl
      have hpos : 0 < numbers.length := List.length_pos_iff.2 hne
      rw [← Option.some.inj h]
      simp only [List.length_append, List.length_dropLast, bytesOf, List.length_map,
        List.length_range]
      omega

end Matchmaking.Net.Host
