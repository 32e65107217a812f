/-!
# Positional digits

The last digits of a number in a base, most significant first, and the number that digits stand
for. Main statement: a fixed count of digits determines the number below the matching power of the
base.
-/

namespace Matchmaking.Number

/-- The last `count` digits of `n`, most significant first. -/
def toDigits (base : Nat) : (count n : Nat) → List Nat
  | 0, _ => []
  | count + 1, n => toDigits base count (n / base) ++ [n % base]

/-- The number that digits stand for, the first digit being the most significant. -/
def ofDigits (base : Nat) (ds : List Nat) : Nat := ds.foldl (fun n d => n * base + d) 0

@[simp] theorem length_toDigits (base count n : Nat) : (toDigits base count n).length = count := by
  induction count generalizing n with
  | zero => rfl
  | succ count ih => simp [toDigits, ih]

theorem lt_of_mem_toDigits {base count n d : Nat} (hb : 0 < base) (h : d ∈ toDigits base count n) :
    d < base := by
  induction count generalizing n with
  | zero => simp [toDigits] at h
  | succ count ih =>
    rcases List.mem_append.1 h with h | h
    · exact ih h
    · rw [List.mem_singleton.1 h]
      exact Nat.mod_lt _ hb

theorem ofDigits_append_singleton (base : Nat) (ds : List Nat) (d : Nat) :
    ofDigits base (ds ++ [d]) = ofDigits base ds * base + d := by
  simp [ofDigits]

/-- The last digits of a number stand for its remainder. -/
theorem ofDigits_toDigits (base count n : Nat) :
    ofDigits base (toDigits base count n) = n % Nat.pow base count := by
  induction count generalizing n with
  | zero => simp [toDigits, ofDigits, Nat.mod_one]
  | succ count ih =>
    have step : Nat.pow base (count + 1) = base * Nat.pow base count := Nat.mul_comm _ _
    rw [toDigits, ofDigits_append_singleton, ih, step, Nat.mod_mul, Nat.mul_comm, Nat.add_comm]

end Matchmaking.Number
