import Matchmaking.Proofs.Text.Blank
import Matchmaking.Time.Timestamp

/-!
# The texts of timestamps

A timestamp is found again from its text, years with a sign and fractions of any of the three widths
included, unless it is a leap second within a minute: that is written like the second after it.
-/

namespace Matchmaking.Time.Timestamp

open Text Number

variable {α β : Type} {scan : Scanner α} {cs rest : List Char} {a : α} {n most : Nat}

private theorem bind_of_ok {f : α → Scanner β} (h : scan cs = .ok (a, rest)) :
    (scan >>= f) cs = f a rest := by
  show (scan cs >>= fun r => f r.1 r.2) = _
  rw [h]
  rfl

/-! ## Digits -/

private def values (cs : List Char) : List Nat := cs.map fun c => c.toNat - '0'.toNat

private theorem ofDecimal_values (h : IsNumeral n cs) : ofDecimal (values cs) = n := by
  rw [← h.value, Nat.ofDigitChars_eq_foldl, ofDecimal, values, List.foldl_map]
  simp only [Nat.mul_comm]

def Stops (rest : List Char) : Prop := ∀ c ∈ rest.head?, digitValue c = none

private theorem spanDigits_append (digits : ∀ c ∈ cs, c.isDigit = true)
    (h : cs.length = most ∨ cs.length ≤ most ∧ Stops rest) :
    spanDigits most (cs ++ rest) = (values cs, rest) := by
  induction cs generalizing most with
  | nil =>
      rcases h with rfl | ⟨_, stops⟩
      · rw [List.nil_append, List.length_nil, spanDigits]
        rfl
      · cases rest with
        | nil => cases most <;> rfl
        | cons c rest =>
            cases most with
            | zero => rfl
            | succ most =>
                rw [List.nil_append, spanDigits, stops c rfl]
                rfl
  | cons c cs ih =>
      have hmost : most ≠ 0 := by
        rw [List.length_cons] at h
        omega
      obtain ⟨most, rfl⟩ := Nat.exists_eq_succ_of_ne_zero hmost
      have htail := ih (fun d hd => digits d (List.mem_cons_of_mem c hd))
        (h.imp Nat.succ.inj (And.imp_left Nat.le_of_succ_le_succ))
      rw [List.cons_append, spanDigits, digitValue_of_isDigit (digits c List.mem_cons_self)]
      simp only [htail]
      rfl

private theorem someDigits_append (h : IsNumeral n cs)
    (fits : cs.length = most ∨ cs.length ≤ most ∧ Stops rest) :
    someDigits most (cs ++ rest) = .ok (values cs, rest) := by
  have hspan := spanDigits_append h.digits fits
  obtain ⟨c, cs, rfl⟩ := List.exists_cons_of_ne_nil h.ne_nil
  rw [List.cons_append] at hspan ⊢
  simp only [someDigits, hspan]
  rfl

private theorem allDigits_append (h : IsNumeral n cs) (le : n ≤ most) (stops : Stops rest) :
    allDigits most (cs ++ rest) = .ok (n, rest) := by
  have hle : cs.length ≤ (cs ++ rest).length := List.length_append ▸ Nat.le_add_right _ _
  have hdigits := someDigits_append h (Or.inr ⟨hle, stops⟩)
  simp only [allDigits, hdigits, ofDecimal_values h, if_pos le]

/-! ## Components -/

private theorem blanks_cons {c : Char} (h : isBlank c = false) :
    blanks (c :: cs) = .ok ((), c :: cs) := by
  rw [blanks, dropBlank, List.dropWhile_cons_of_neg (by simp [h])]

private theorem blanks_append (h : IsNumeral n cs) :
    blanks (cs ++ rest) = .ok ((), cs ++ rest) := by
  obtain ⟨c, cs, rfl⟩ := List.exists_cons_of_ne_nil h.ne_nil
  exact blanks_cons (isBlank_of_isDigit (h.digits c List.mem_cons_self))

private theorem component_append {least : Nat} (h : IsNumeral n cs) (two : cs.length = 2)
    (bounds : least ≤ n ∧ n ≤ most) : component least most (cs ++ rest) = .ok (n, rest) := by
  rw [component, bind_of_ok (blanks_append h), bind_of_ok (someDigits_append h (Or.inl two))]
  simp only [ofDecimal_values h, if_pos bounds]
  rfl

private theorem component_padded {least : Nat} (bounds : least ≤ n ∧ n ≤ most) (lt : n < 100) :
    component least most ((padded 2 n).toList ++ rest) = .ok (n, rest) :=
  component_append (padded_isNumeral 2 n) (length_padded (by decide) lt) bounds

private theorem spacedSeparator_cons {mark : Char} (h : isBlank mark = false) :
    spacedSeparator mark (mark :: rest) = .ok ((), rest) := by
  rw [spacedSeparator, bind_of_ok (blanks_cons h)]
  simp only [separator, if_true]

/-! ## Years -/

private theorem get_apply (cs : List Char) : (get : Scanner (List Char)) cs = .ok (cs, cs) := rfl

private theorem year_minus (cs : List Char) : year ('-' :: cs) =
    (do return -(← allDigits (mostSigned32 + 1) : Nat) : Scanner Int) cs := by
  have hmark : isBlank '-' = false := by decide
  rw [year, bind_of_ok (blanks_cons hmark), bind_of_ok (get_apply _)]
  rfl

private theorem year_plus (cs : List Char) : year ('+' :: cs) =
    (do return (← allDigits mostSigned32 : Nat) : Scanner Int) cs := by
  have hmark : isBlank '+' = false := by decide
  rw [year, bind_of_ok (blanks_cons hmark), bind_of_ok (get_apply _)]
  rfl

private theorem year_digits (h : IsNumeral n cs) : year (cs ++ rest) =
    (do return ofDecimal (← someDigits 4) : Scanner Int) (cs ++ rest) := by
  obtain ⟨c, cs, rfl⟩ := List.exists_cons_of_ne_nil h.ne_nil
  have hdigit := h.digits c List.mem_cons_self
  rw [List.cons_append, year, bind_of_ok (blanks_cons (isBlank_of_isDigit hdigit)),
    bind_of_ok (get_apply _)]
  refine congrFun ?_ (c :: (cs ++ rest))
  split
  · rename_i heq
    rw [(List.cons.inj heq).1] at hdigit
    cases hdigit
  · rename_i heq
    rw [(List.cons.inj heq).1] at hdigit
    cases hdigit
  · rfl

private theorem stops_hyphen (rest : List Char) : Stops ('-' :: rest) := by
  intro c hc
  cases hc
  rfl

theorem year_yearText {y : Int} (bounds : firstYear ≤ y ∧ y ≤ lastYear) :
    year ((yearText y).toList ++ '-' :: rest) = .ok (y, '-' :: rest) := by
  have hmost : y.natAbs ≤ mostSigned32 := by
    simp only [firstYear, lastYear] at bounds
    simp only [mostSigned32]
    omega
  rw [yearText]
  split
  · rename_i hfour
    have hnumeral := padded_isNumeral 4 y.toNat
    have hlt : y.toNat < 10000 := by omega
    have hlength : (padded 4 y.toNat).toList.length = 4 := length_padded (by decide) hlt
    rw [year_digits hnumeral, bind_of_ok (someDigits_append hnumeral (Or.inl hlength)),
      ofDecimal_values hnumeral, Int.toNat_of_nonneg hfour.1]
    rfl
  · have hnumeral := padded_isNumeral 4 y.natAbs
    rw [String.toList_append, List.append_assoc]
    split
    · rename_i hneg
      have hread := allDigits_append hnumeral (Nat.le_succ_of_le hmost) (stops_hyphen rest)
      have hmark : "-".toList = ['-'] := rfl
      rw [hmark, List.cons_append, List.nil_append, year_minus, bind_of_ok hread,
        Int.ofNat_natAbs_of_nonpos (Int.le_of_lt hneg), Int.neg_neg]
      rfl
    · rename_i hnonneg
      have hread := allDigits_append hnumeral hmost (stops_hyphen rest)
      have hmark : "+".toList = ['+'] := rfl
      rw [hmark, List.cons_append, List.nil_append, year_plus, bind_of_ok hread,
        Int.natAbs_of_nonneg (Int.not_lt.mp hnonneg)]
      rfl

/-! ## Fractions -/

private theorem stops_zone : Stops ['Z'] := by
  intro c hc
  cases hc
  rfl

private theorem fraction_point (cs : List Char) : fraction ('.' :: cs) = (do
    let ds ← someDigits 9
    modify fun cs => cs.dropWhile fun c => (digitValue c).isSome
    return Fin.ofNat _ (ofDecimal ds * Nat.pow 10 (9 - ds.length)) :
      Scanner (Fin 1000000000)) cs := by
  rw [fraction, bind_of_ok (get_apply _)]
  rfl

/-- A fraction of some digits counts as many of its lowest units. -/
private theorem fraction_padded {width m : Nat} (pos : 0 < width) (le : width ≤ 9)
    (lt : m < Nat.pow 10 width) {nano : Fin 1000000000}
    (value : m * Nat.pow 10 (9 - width) = nano) :
    fraction (("." ++ padded width m).toList ++ ['Z']) = .ok (nano, ['Z']) := by
  have hnumeral := padded_isNumeral width m
  have hlength := length_padded pos lt
  have hread := someDigits_append hnumeral (Or.inr ⟨hlength.symm ▸ le, stops_zone⟩)
  have hvalues : (values (padded width m).toList).length = width := by
    rw [values, List.length_map, hlength]
  have hmark : ".".toList = ['.'] := rfl
  rw [String.toList_append, hmark, List.cons_append, List.nil_append, List.cons_append,
    fraction_point, bind_of_ok hread, hvalues, ofDecimal_values hnumeral, value,
    Fin.ofNat_val_eq_self]
  rfl

theorem fraction_fractionText (nano : Fin 1000000000) :
    fraction ((fractionText nano).toList ++ ['Z']) = .ok (nano, ['Z']) := by
  have hlt := nano.isLt
  rw [fractionText]
  split
  · rename_i hzero
    rw [show nano = 0 from Fin.ext hzero]
    rfl
  split
  · have hmillis : (nano : Nat) / 1000000 < 1000 := by omega
    refine fraction_padded (by decide) (by decide) hmillis ?_
    show (nano : Nat) / 1000000 * 1000000 = nano
    omega
  split
  · have hmicros : (nano : Nat) / 1000 < 1000000 := by omega
    refine fraction_padded (by decide) (by decide) hmicros ?_
    show (nano : Nat) / 1000 * 1000 = nano
    omega
  · refine fraction_padded (by decide) (by decide) hlt ?_
    show (nano : Nat) * 1 = nano
    omega

/-! ## Leap seconds -/

/-- The moment that a text is read as: a leap second within a minute becomes the next second. -/
def asRead (t : Timestamp) : Timestamp :=
  if h : 1000000000 ≤ t.nano.val ∧ t.second.val < 59 then
    { t with
      second := ⟨t.second + 1, by omega⟩
      nano := ⟨t.nano - 1000000000, by omega⟩ }
  else t

/-- Leap seconds stand at the end of a minute only. -/
def IsRegular (t : Timestamp) : Prop := t.nano.val < 1000000000 ∨ t.second.val = 59

instance : DecidablePred IsRegular := fun _ => inferInstanceAs (Decidable (_ ∨ _))

theorem asRead_eq_self_iff {t : Timestamp} : t.asRead = t ↔ t.IsRegular := by
  rw [asRead]
  split
  · rename_i h
    refine iff_of_false (fun heq => ?_) ?_
    · have hsecond := congrArg (fun u : Timestamp => u.second.val) heq
      exact absurd hsecond (Nat.succ_ne_self _)
    · rw [IsRegular]
      omega
  · rename_i h
    refine iff_of_true rfl ?_
    rw [IsRegular]
    omega

private theorem ofSixty_shown (t : Timestamp) :
    ofSixty (t.second + t.nano / 1000000000) ⟨t.nano % 1000000000, by omega⟩ =
      (t.asRead.second, t.asRead.nano) := by
  have hsecond := t.second.isLt
  have hnano := t.nano.isLt
  rw [ofSixty, asRead]
  split
  · rename_i hsixty
    rw [dif_neg (by omega)]
    refine Prod.ext (Fin.ext ?_) (Fin.ext ?_)
    · show 59 = t.second.val
      omega
    · show t.nano.val % 1000000000 + 1000000000 = t.nano.val
      omega
  · split
    · refine Prod.ext (Fin.ext ?_) (Fin.ext ?_)
      · show (t.second.val + t.nano.val / 1000000000) % 60 = t.second.val + 1
        omega
      · show t.nano.val % 1000000000 = t.nano.val - 1000000000
        omega
    · refine Prod.ext (Fin.ext ?_) (Fin.ext ?_)
      · show (t.second.val + t.nano.val / 1000000000) % 60 = t.second.val
        omega
      · show t.nano.val % 1000000000 = t.nano.val
        omega

/-! ## Whole timestamps -/

private theorem atOffset_zero (t : Timestamp) :
    atOffset t.date t.hour t.minute t.second t.nano 0 = .ok t := by
  have hhour := t.hour.isLt
  have hminute := t.minute.isLt
  have hsum : ((t.hour : Int) * 60 + t.minute - 0) = ((t.hour * 60 + t.minute : Nat) : Int) := by
    omega
  have hday : (((t.hour * 60 + t.minute : Nat) : Int) % 1440).toNat = t.hour * 60 + t.minute := by
    omega
  have hdiv : (t.hour * 60 + t.minute : Nat) / 60 = t.hour := by omega
  have hmod : (t.hour * 60 + t.minute : Nat) % 60 = t.minute := by omega
  have hnonneg : ¬((t.hour * 60 + t.minute : Nat) : Int) < 0 := by omega
  have hsame : ¬1440 ≤ ((t.hour * 60 + t.minute : Nat) : Int) := by omega
  have hhour' : Fin.ofNat 24 (t.hour : Nat) = t.hour := Fin.ofNat_val_eq_self t.hour
  have hminute' : Fin.ofNat 60 (t.hour * 60 + t.minute) = t.minute := Fin.ext hmod
  unfold atOffset
  simp only [hsum, if_neg hnonneg, if_neg hsame, hday, hdiv, hhour', hminute']

private theorem offset_zone : offset ['Z'] = .ok (0, []) := by
  have hmark : isBlank 'Z' = false := by decide
  rw [offset, bind_of_ok (blanks_cons hmark), bind_of_ok (get_apply _)]
  rfl

private theorem timeMark_cons (rest : List Char) : timeMark ('T' :: rest) = .ok ((), rest) := rfl

private theorem daysIn_le (year : Int) (month : Nat) : daysIn year month ≤ 31 := by
  unfold daysIn
  split
  · split <;> decide
  all_goals decide

private theorem asRead_sameMinute (t : Timestamp) : t.asRead =
    { t with second := t.asRead.second, nano := t.asRead.nano } := by
  rw [asRead]
  split <;> rfl

theorem parse_text (t : Timestamp) : parse t.text = .ok t.asRead := by
  have hchars : t.text.toList = (yearText t.date.year).toList ++ '-' ::
      ((padded 2 t.date.month).toList ++ '-' :: ((padded 2 t.date.day).toList ++ 'T' ::
        ((padded 2 t.hour).toList ++ ':' :: ((padded 2 t.minute).toList ++ ':' ::
          ((padded 2 (t.second + t.nano / 1000000000)).toList ++
            ((fractionText (t.nano % 1000000000)).toList ++ ['Z'])))))) := by
    simp [text, localText]
  have hhyphen : isBlank '-' = false := by decide
  have hcolon : isBlank ':' = false := by decide
  have hmonth := t.date.month_bounds
  have hday : 1 ≤ t.date.day ∧ t.date.day ≤ 31 :=
    ⟨t.date.day_bounds.1, Nat.le_trans t.date.day_bounds.2 (daysIn_le _ _)⟩
  have hfraction := fraction_fractionText ⟨t.nano % 1000000000, by omega⟩
  have hscan : scan t.text.toList = .ok (t.asRead, []) := by
    rw [hchars, scan, bind_of_ok (year_yearText t.date.year_bounds),
      bind_of_ok (spacedSeparator_cons hhyphen),
      bind_of_ok (component_padded hmonth (by omega)),
      bind_of_ok (spacedSeparator_cons hhyphen),
      bind_of_ok (component_padded hday (by omega)),
      bind_of_ok (timeMark_cons _),
      bind_of_ok (component_padded (by omega) (by omega)),
      bind_of_ok (spacedSeparator_cons hcolon),
      bind_of_ok (component_padded (by omega) (by omega)),
      bind_of_ok (spacedSeparator_cons hcolon),
      bind_of_ok (component_padded (by omega) (by omega)),
      bind_of_ok hfraction, bind_of_ok offset_zone,
      bind_of_ok (get_apply _)]
    have hempty : ¬(!(dropBlank []).isEmpty) = true := by decide
    have hoffset : ¬1440 ≤ Int.natAbs 0 := by decide
    have hread := atOffset_zero { t with second := t.asRead.second, nano := t.asRead.nano }
    rw [if_neg hempty]
    simp only [Date.of?_self, if_neg hoffset, ofSixty_shown]
    rw [hread, ← asRead_sameMinute]
    rfl
  rw [parse, hscan]
  rfl

end Matchmaking.Time.Timestamp
