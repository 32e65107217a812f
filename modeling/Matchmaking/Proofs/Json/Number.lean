import Mathlib.Data.List.TakeDrop
import Matchmaking.Proofs.Json.Form

/-!
# Reading numbers

A number is read to its end and no further, whether for its value or to pass over it.
-/

namespace Matchmaking.Json

open Number

/-- A number does not go on with what follows it. -/
def EndsNumber (rest : List UInt8) : Prop :=
  ∀ b ∈ rest.head?, isDigit b = false ∧ b ≠ 0x2E ∧ b ≠ 0x65 ∧ b ≠ 0x45

theorem Follows.endsNumber {rest : List UInt8} (h : Follows rest) : EndsNumber rest := by
  intro b hb
  have hcases := h b hb
  simp only [isSpace, Bool.or_eq_true, beq_iff_eq, or_assoc] at hcases
  rcases hcases with rfl | rfl | rfl | rfl | rfl | rfl | rfl <;> decide

section Scan

variable {cut : Flaw} {ds bs rest : List UInt8} {fraction : Option (List UInt8)}
  {exponent : Option (Bool × List UInt8)} {t : NumberText}

private theorem span_digits (digits : ∀ d ∈ ds, isDigit d = true)
    (stop : ∀ b ∈ rest.head?, isDigit b = false) : (ds ++ rest).span isDigit = (ds, rest) := by
  rw [List.span_eq_takeWhile_dropWhile, List.takeWhile_append_of_pos digits,
    List.dropWhile_append_of_pos digits]
  cases rest with
  | nil => simp
  | cons b rest =>
      have hb := stop b rfl
      rw [List.takeWhile_cons_of_neg (by simp [hb]), List.dropWhile_cons_of_neg (by simp [hb]),
        List.append_nil]

theorem scanWhole_append (h : IsWhole ds) (stop : ∀ b ∈ rest.head?, isDigit b = false) :
    scanWhole cut (ds ++ rest) = .ok (ds, rest) := by
  simp only [scanWhole, span_digits h.digits stop]
  split
  · exact absurd rfl h.ne_nil
  · have hzero := h.zero_alone rfl
    cases hzero
  · rfl

theorem scanFraction_append (h : IsFraction fraction bs)
    (stop : ∀ b ∈ rest.head?, isDigit b = false ∧ b ≠ 0x2E) :
    scanFraction cut (bs ++ rest) = .ok (fraction, rest) := by
  cases h with
  | none =>
      rw [List.nil_append]
      unfold scanFraction
      split
      · exact absurd rfl (stop _ rfl).2
      · rfl
  | @some ds digits ne_nil =>
      simp only [List.cons_append, scanFraction, span_digits digits fun b hb => (stop b hb).1,
        List.isEmpty_iff, ne_nil, if_false]

/-- A digit is no sign. -/
private theorem exponentSign_append (digits : ∀ d ∈ ds, isDigit d = true) (ne_nil : ds ≠ []) :
    exponentSign (ds ++ rest) = (false, ds ++ rest) := by
  obtain ⟨d, ds, rfl⟩ := List.exists_cons_of_ne_nil ne_nil
  have hd := digits d List.mem_cons_self
  rw [List.cons_append]
  unfold exponentSign
  split
  · rename_i heq
    cases heq
    exact absurd hd (by decide)
  · rename_i heq
    cases heq
    exact absurd hd (by decide)
  · rfl

theorem scanExponent_append (h : IsExponent exponent bs) (stop : EndsNumber rest) :
    scanExponent cut (bs ++ rest) = .ok (exponent, rest) := by
  have hdigit : ∀ b ∈ rest.head?, isDigit b = false := fun b hb => (stop b hb).1
  cases h with
  | none =>
      cases rest with
      | nil => rfl
      | cons b rest =>
          obtain ⟨_, _, he, hE⟩ := stop b rfl
          simp only [List.nil_append, scanExponent, he, hE, or_self, if_false]
  | bare mark_eq digits ne_nil =>
      simp only [List.cons_append, scanExponent, if_pos mark_eq, exponentSign_append digits ne_nil,
        span_digits digits hdigit, List.isEmpty_iff, ne_nil, if_false]
  | signed negative mark_eq digits ne_nil =>
      cases negative <;>
        simp only [List.cons_append, scanExponent, if_pos mark_eq, exponentSign, if_true,
          Bool.false_eq_true, span_digits digits hdigit, List.isEmpty_iff, ne_nil, if_false]

private theorem head?_append_of_isExponent (h : IsExponent exponent bs) (stop : EndsNumber rest) :
    ∀ b ∈ (bs ++ rest).head?, isDigit b = false ∧ b ≠ 0x2E := by
  intro b hb
  cases h with
  | none => exact ⟨(stop b hb).1, (stop b hb).2.1⟩
  | bare mark_eq =>
      cases hb
      rcases mark_eq with rfl | rfl <;> decide
  | signed negative mark_eq =>
      cases hb
      rcases mark_eq with rfl | rfl <;> decide

theorem scanNumber_append (h : IsNumber t bs) (stop : EndsNumber rest) :
    scanNumber cut (bs ++ rest) = .ok (t, rest) := by
  cases h with
  | @parts whole fractionBytes exponentBytes fraction exponent negative isWhole isFraction
      isExponent =>
      have hexponent := head?_append_of_isExponent isExponent stop
      have hfraction : ∀ b ∈ (fractionBytes ++ (exponentBytes ++ rest)).head?,
          isDigit b = false := by
        intro b hb
        cases isFraction with
        | none => exact (hexponent b hb).1
        | some => cases hb; decide
      have hparts : (do
          let w ← scanWhole cut (whole ++ (fractionBytes ++ (exponentBytes ++ rest)))
          let f ← scanFraction cut w.2
          let e ← scanExponent cut f.2
          return (NumberText.mk negative w.1 f.1 e.1, e.2)) =
            (.ok (⟨negative, whole, fraction, exponent⟩, rest) : Except Flaw _) := by
        simp only [scanWhole_append isWhole hfraction, scanFraction_append isFraction hexponent,
          scanExponent_append isExponent stop, bind, Except.bind, pure, Except.pure]
      simp only [List.append_assoc]
      unfold scanNumber
      cases negative with
      | true => exact hparts
      | false =>
          obtain ⟨d, ds, rfl⟩ := List.exists_cons_of_ne_nil isWhole.ne_nil
          have hd := isWhole.digits d List.mem_cons_self
          split
          rename_i negative bs heq
          split at heq
          · rename_i hminus
            cases hminus
            exact absurd hd (by decide)
          · cases heq
            exact hparts

theorem readNumber_append (h : IsNumber t bs) (stop : EndsNumber rest) :
    readNumber (bs ++ rest) = t.value.map fun x => (x, rest) := by
  unfold readNumber
  rw [scanNumber_append h stop]
  cases hvalue : t.value <;> simp only [hvalue, bind, Except.bind, pure, Except.pure, Except.map]

theorem skipNumber_append (h : IsNumber t bs) (stop : EndsNumber rest) :
    skipNumber (bs ++ rest) = .ok rest := by
  rw [skipNumber, scanNumber_append h stop]
  rfl

end Scan

/-! ## Integers -/

section Integer

variable {ds bs rest : List UInt8} {n : Nat}

/-- The number that decimal digits stand for, after the number `n` before them. -/
def decimal (n : Nat) (ds : List UInt8) : Nat := ds.foldl (fun n d => n * 10 + digitOf d) n

theorem le_decimal (n : Nat) (ds : List UInt8) : n ≤ decimal n ds := by
  induction ds generalizing n with
  | nil => exact Nat.le_refl n
  | cons d ds ih =>
      have hrest : n * 10 + digitOf d ≤ decimal n (d :: ds) := ih _
      omega

/-- Digits are taken up as long as their number fits, and none is left over just if it does. -/
theorem absorb_eq_of_le (fits : decimal n ds ≤ mostSignificand) :
    absorb n ds = (decimal n ds, 0) := by
  induction ds generalizing n with
  | nil => rfl
  | cons d ds ih =>
      have hrest : n * 10 + digitOf d ≤ decimal n (d :: ds) := le_decimal _ ds
      rw [absorb, if_pos (Nat.le_trans hrest fits)]
      exact ih fits

theorem absorb_spills_of_lt (spills : mostSignificand < decimal n ds)
    (small : n ≤ mostSignificand) :
    (absorb n ds).2 ≠ 0 := by
  induction ds generalizing n with
  | nil => exact absurd small (Nat.not_le.mpr spills)
  | cons d ds ih =>
      rw [absorb]
      split
      · rename_i hfits
        exact ih spills hfits
      · exact Nat.succ_ne_zero _

/-- The bytes of an integer: digits alone, with a minus sign in front of a negative number. -/
inductive IsInteger : Int → List UInt8 → Prop where
  | natural {ds : List UInt8} (isWhole : IsWhole ds) : IsInteger (decimal 0 ds) ds
  | negative {ds : List UInt8} (isWhole : IsWhole ds) : IsInteger (-decimal 0 ds) (0x2D :: ds)

theorem IsWhole.isNumber (h : IsWhole ds) (negative : Bool) :
    IsNumber ⟨negative, ds, none, none⟩ (signBytes negative ++ ds) := by
  have hparts := IsNumber.parts negative h .none .none
  rwa [List.append_nil, List.append_nil] at hparts

/-- Whether an integer is kept as one: it fits 64 bits and is not minus zero. -/
def Fits : (negative : Bool) → Nat → Prop
  | false, n => n ≤ mostUnsigned64
  | true, n => n ≠ 0 ∧ n ≤ mostSigned64 + 1

theorem Fits.le {negative : Bool} (h : Fits negative n) : n ≤ mostSignificand := by
  cases negative with
  | false => exact h
  | true => exact Nat.le_trans h.2 (by decide)

theorem value_of_fits {negative : Bool} (fits : Fits negative (decimal 0 ds)) :
    NumberText.value ⟨negative, ds, none, none⟩ =
      .ok (.integer (if negative then -(decimal 0 ds : Int) else decimal 0 ds)) := by
  unfold NumberText.value
  rw [absorb_eq_of_le fits.le]
  refine if_pos ⟨rfl, rfl, rfl, ?_⟩
  cases negative with
  | true => exact fits
  | false => exact trivial

theorem fits_of_value {negative : Bool} {k : Int}
    (h : NumberText.value ⟨negative, ds, none, none⟩ = .ok (.integer k)) :
    Fits negative (decimal 0 ds) := by
  have hkept : (absorb 0 ds).2 = 0 ∧
      (if negative then (absorb 0 ds).1 ≠ 0 ∧ (absorb 0 ds).1 ≤ mostSigned64 + 1 else True) := by
    by_contra hfloat
    unfold NumberText.value at h
    dsimp only at h
    rw [if_neg fun hc => hfloat hc.2.2] at h
    split at h <;> cases h
  have hle : decimal 0 ds ≤ mostSignificand := by
    by_contra hlt
    exact absorb_spills_of_lt (Nat.lt_of_not_le hlt) (Nat.zero_le _) hkept.1
  rw [absorb_eq_of_le hle] at hkept
  cases negative with
  | true => exact hkept.2
  | false => exact hle

/-- The parts of a number are those that are written. -/
theorem IsNumber.eq {t t' : NumberText} (h : IsNumber t bs) (h' : IsNumber t' bs) : t = t' := by
  have stop : EndsNumber [] := fun _ hb => nomatch hb
  have hread : scanNumber .invalidNumber (bs ++ []) = .ok (t, []) := scanNumber_append h stop
  have hscan := hread.symm.trans (scanNumber_append h' stop)
  injection hscan with hscan
  exact congrArg Prod.fst hscan

theorem IsInteger.exists_isNumber {k : Int} (h : IsInteger k bs) : ∃ t, IsNumber t bs := by
  cases h with
  | natural isWhole => exact ⟨_, isWhole.isNumber false⟩
  | negative isWhole => exact ⟨_, isWhole.isNumber true⟩

/-- An integer that is kept is the one that is written. -/
theorem IsInteger.eq_of_value {k m : Int} {t : NumberText} (h : IsInteger k bs)
    (number : IsNumber t bs) (kept : t.value = .ok (.integer m)) : m = k := by
  cases h with
  | natural isWhole =>
      obtain rfl := number.eq (isWhole.isNumber false)
      rw [value_of_fits (fits_of_value kept), if_neg Bool.false_ne_true] at kept
      cases kept
      rfl
  | negative isWhole =>
      obtain rfl := number.eq (isWhole.isNumber true)
      rw [value_of_fits (fits_of_value kept), if_pos rfl] at kept
      cases kept
      rfl

end Integer

end Matchmaking.Json
