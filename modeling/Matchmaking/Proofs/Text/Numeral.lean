import Matchmaking.Text.Numeral

/-!
# The digits of numbers

A number is found again from its digits, also with zeros in front. A text is read as a number just if
it is one in decimal within the bounds; any other is refused for its size or for a character.
-/

namespace Matchmaking.Text

/-- Digits that stand for a number. -/
structure IsNumeral (n : Nat) (cs : List Char) : Prop where
  digits : ∀ c ∈ cs, c.isDigit = true
  ne_nil : cs ≠ []
  value : Nat.ofDigitChars 10 cs 0 = n

theorem digits_isNumeral (n : Nat) : IsNumeral n (digits n) where
  digits _ hc := Nat.isDigit_of_mem_toDigits (by decide) (by decide) hc
  ne_nil := Nat.toDigits_ne_nil
  value := Nat.ofDigitChars_toDigits (by decide) (by decide)

theorem padded_isNumeral (width n : Nat) : IsNumeral n (padded width n).toList := by
  have hnumeral := digits_isNumeral n
  rw [padded, String.toList_ofList]
  refine ⟨fun c hc => ?_, ?_, ?_⟩
  · rcases List.mem_append.mp hc with hzero | hdigit
    · rw [List.eq_of_mem_replicate hzero]
      rfl
    · exact hnumeral.digits c hdigit
  · exact List.append_ne_nil_of_right_ne_nil _ hnumeral.ne_nil
  · rw [Nat.ofDigitChars_append, Nat.ofDigitChars_replicate_zero, Nat.mul_zero]
    exact hnumeral.value

theorem length_padded {width n : Nat} (pos : 0 < width) (h : n < Nat.pow 10 width) :
    (padded width n).toList.length = width := by
  have hle : (digits n).length ≤ width := (Nat.length_toDigits_le_iff (by decide) pos).mpr h
  rw [padded, String.toList_ofList, List.length_append, List.length_replicate]
  omega

/-- Only zero is written with a zero in front. -/
theorem digits_of_head? {n : Nat} (h : (digits n).head? = some '0') : digits n = ['0'] := by
  induction n using Nat.strongRecOn with
  | ind n ih =>
      by_cases hlt : n < 10
      · rw [digits, Nat.toDigits_of_lt_base hlt] at h ⊢
        simp only [List.head?_cons, Option.some.injEq] at h
        rw [h]
      · have hsplit : digits n = digits (n / 10) ++ [Nat.digitChar (n % 10)] :=
          Nat.toDigits_of_base_le (by decide) (Nat.le_of_not_lt hlt)
        obtain ⟨c, cs, hc⟩ := List.exists_cons_of_ne_nil (digits_isNumeral (n / 10)).ne_nil
        rw [hsplit, hc, List.cons_append, List.head?_cons] at h
        have hzero := (digits_isNumeral (n / 10)).value
        rw [ih (n / 10) (by omega) (by rw [hc, List.head?_cons, h])] at hzero
        have hnil : Nat.ofDigitChars 10 ['0'] 0 = 0 := rfl
        omega

theorem toNat_of_isDigit {c : Char} (h : c.isDigit = true) : 48 ≤ c.toNat ∧ c.toNat ≤ 57 := by
  simp only [Char.isDigit, Bool.and_eq_true, decide_eq_true_eq] at h
  exact h

theorem digitValue_of_isDigit {c : Char} (h : c.isDigit = true) :
    digitValue c = some (c.toNat - '0'.toNat) := by
  have hrange : '0' ≤ c ∧ c ≤ '9' := by
    simp only [Char.isDigit, Bool.and_eq_true, decide_eq_true_eq] at h
    exact h
  rw [digitValue, if_pos hrange]

theorem digitValue_of_not_isDigit {c : Char} (h : c.isDigit ≠ true) : digitValue c = none := by
  have hrange : ¬('0' ≤ c ∧ c ≤ '9') := by
    intro hc
    apply h
    simp only [Char.isDigit, Bool.and_eq_true, decide_eq_true_eq]
    exact hc
  rw [digitValue, if_neg hrange]

/-! ## Which texts are read as numbers -/

/-- A number in decimal, with or without a plus sign. -/
def IsDecimal (n : Nat) (cs : List Char) : Prop :=
  IsNumeral n cs ∨ ∃ ds, cs = '+' :: ds ∧ IsNumeral n ds

/-- An integer in decimal, with or without a sign. -/
def IsSigned (k : Int) (cs : List Char) : Prop :=
  (∃ n : Nat, k = n ∧ IsDecimal n cs) ∨ ∃ n : Nat, k = -n ∧ ∃ ds, cs = '-' :: ds ∧ IsNumeral n ds

/-- An integer is written in decimal. -/
theorem isSigned_toString (k : Int) : IsSigned k (toString k).toList := by
  have hrepr : ∀ n : Nat, n.repr.toList = digits n := fun _ => Nat.toList_repr
  cases k with
  | ofNat n => exact Or.inl ⟨n, rfl, Or.inl (hrepr n ▸ digits_isNumeral n)⟩
  | negSucc n =>
      have hminus : ("-" ++ (n + 1).repr).toList = '-' :: digits (n + 1) := by
        rw [String.toList_append, hrepr]
        rfl
      exact Or.inr ⟨n + 1, rfl, digits (n + 1), hminus, digits_isNumeral (n + 1)⟩

/-- A text that starts with a number above a bound, whatever follows. -/
def Exceeds (most : Nat) (cs : List Char) : Prop :=
  ∃ n ds rest, cs = ds ++ rest ∧ IsDecimal n ds ∧ most < n

section Reading

variable {most n m : Nat} {c : Char} {cs : List Char} {k : Int}

theorem le_ofDigitChars (n : Nat) (cs : List Char) : n ≤ Nat.ofDigitChars 10 cs n := by
  induction cs generalizing n with
  | nil => simp
  | cons c cs ih =>
      rw [Nat.ofDigitChars_cons]
      have hle := ih (10 * n + (c.toNat - '0'.toNat))
      omega

private theorem accumulate_cons_of_isDigit (h : c.isDigit = true) :
    accumulate most n (c :: cs) =
      if 10 * n + (c.toNat - '0'.toNat) ≤ most then
        accumulate most (10 * n + (c.toNat - '0'.toNat)) cs
      else .error .tooLarge := by
  rw [accumulate, digitValue_of_isDigit h, Nat.mul_comm n]

private theorem accumulate_cons_of_not_isDigit (h : c.isDigit ≠ true) :
    accumulate most n (c :: cs) = .error .invalidDigit := by
  rw [accumulate, digitValue_of_not_isDigit h]

/-- Every step stays within the bound if the last one does. -/
theorem accumulate_eq_ok_iff (h : n ≤ most) : accumulate most n cs = .ok m ↔
    (∀ c ∈ cs, c.isDigit = true) ∧ Nat.ofDigitChars 10 cs n = m ∧ m ≤ most := by
  induction cs generalizing n with
  | nil =>
      simp only [accumulate, Except.ok.injEq, List.not_mem_nil, false_implies, implies_true,
        Nat.ofDigitChars_nil, true_and]
      omega
  | cons c cs ih =>
      rw [List.forall_mem_cons, Nat.ofDigitChars_cons]
      by_cases hc : c.isDigit = true
      · rw [accumulate_cons_of_isDigit hc]
        split
        · rename_i hle
          rw [ih hle]
          simp [hc]
        · have hge := le_ofDigitChars (10 * n + (c.toNat - '0'.toNat)) cs
          simp only [reduceCtorEq, false_iff]
          omega
      · simp [accumulate_cons_of_not_isDigit hc, hc]

/-- The number is too large as soon as the digits read so far are. -/
theorem accumulate_eq_tooLarge_iff (h : n ≤ most) : accumulate most n cs = .error .tooLarge ↔
    ∃ ds rest, cs = ds ++ rest ∧ (∀ c ∈ ds, c.isDigit = true) ∧
      most < Nat.ofDigitChars 10 ds n := by
  induction cs generalizing n with
  | nil =>
      simp only [accumulate, reduceCtorEq, List.nil_eq, List.append_eq_nil_iff, false_iff]
      intro hfront
      obtain ⟨ds, rest, ⟨hds, _⟩, _, hlt⟩ := hfront
      simp only [hds, Nat.ofDigitChars_nil] at hlt
      omega
  | cons c cs ih =>
      have hfront : (∃ ds rest, c :: cs = ds ++ rest ∧ (∀ d ∈ ds, d.isDigit = true) ∧
          most < Nat.ofDigitChars 10 ds n) ↔
          c.isDigit = true ∧ ∃ ds rest, cs = ds ++ rest ∧ (∀ d ∈ ds, d.isDigit = true) ∧
            most < Nat.ofDigitChars 10 ds (10 * n + (c.toNat - '0'.toNat)) := by
        constructor
        · intro hall
          obtain ⟨ds, rest, happend, hdigits, hlt⟩ := hall
          cases ds with
          | nil =>
              simp only [Nat.ofDigitChars_nil] at hlt
              omega
          | cons d ds =>
              obtain ⟨hd, hcs⟩ := List.cons.inj happend
              rw [List.forall_mem_cons, ← hd] at hdigits
              rw [Nat.ofDigitChars_cons, ← hd] at hlt
              exact ⟨hdigits.1, ds, rest, hcs, hdigits.2, hlt⟩
        · intro hall
          obtain ⟨hc, ds, rest, hcs, hdigits, hlt⟩ := hall
          refine ⟨c :: ds, rest, congrArg (c :: ·) hcs, List.forall_mem_cons.mpr ⟨hc, hdigits⟩, ?_⟩
          rwa [Nat.ofDigitChars_cons]
      rw [hfront]
      by_cases hc : c.isDigit = true
      · rw [accumulate_cons_of_isDigit hc]
        split
        · rename_i hle
          rw [ih hle]
          simp [hc]
        · rename_i hlt
          simp only [true_iff]
          refine ⟨hc, [], cs, rfl, by simp, ?_⟩
          simp only [Nat.ofDigitChars_nil]
          omega
      · simp [accumulate_cons_of_not_isDigit hc, hc]

theorem isNumeral_iff : IsNumeral n cs ↔
    cs ≠ [] ∧ (∀ c ∈ cs, c.isDigit = true) ∧ Nat.ofDigitChars 10 cs 0 = n :=
  ⟨fun h => ⟨h.ne_nil, h.digits, h.value⟩, fun h => ⟨h.2.1, h.1, h.2.2⟩⟩

theorem isDecimal_plus_iff : IsDecimal n ('+' :: cs) ↔ IsNumeral n cs := by
  have hplus : ('+' : Char).isDigit ≠ true := by decide
  constructor
  · intro h
    rcases h with h | ⟨ds, hds, h⟩
    · exact absurd (h.digits _ List.mem_cons_self) hplus
    · rwa [(List.cons.inj hds).2]
  · intro h
    exact Or.inr ⟨cs, rfl, h⟩

theorem isDecimal_iff_of_ne (h : c ≠ '+') : IsDecimal n (c :: cs) ↔ IsNumeral n (c :: cs) := by
  constructor
  · intro hdecimal
    rcases hdecimal with hnumeral | ⟨ds, hds, _⟩
    · exact hnumeral
    · exact absurd (List.cons.inj hds).1 h
  · exact Or.inl

theorem IsDecimal.ne_nil (h : IsDecimal n cs) : cs ≠ [] := by
  rcases h with h | ⟨ds, rfl, _⟩
  · exact h.ne_nil
  · exact List.cons_ne_nil _ _

/-- A sign alone is read like any other character that is no digit. -/
private theorem readNat_cons (most : Nat) (c : Char) (cs : List Char) :
    readNat most (c :: cs) =
      if c = '+' then if cs = [] then .error .invalidDigit else accumulate most 0 cs
      else accumulate most 0 (c :: cs) := by
  by_cases hc : c = '+'
  · subst hc
    cases cs with
    | nil => rfl
    | cons d ds => rfl
  · rw [if_neg hc]
    unfold readNat
    split
    · contradiction
    · rename_i heq
      exact absurd (List.cons.inj heq).1 hc
    · rename_i heq
      rw [heq, accumulate_cons_of_not_isDigit (by decide)]
    · rename_i heq
      exact absurd (List.cons.inj heq).1 hc
    · rfl

/-- What is read is a number in decimal, as far as the bound goes. -/
theorem readNat_eq_ok_iff : readNat most cs = .ok n ↔ IsDecimal n cs ∧ n ≤ most := by
  cases cs with
  | nil =>
      simp only [readNat, reduceCtorEq, false_iff, not_and]
      intro h
      exact absurd rfl h.ne_nil
  | cons c cs =>
      rw [readNat_cons]
      by_cases hc : c = '+'
      · rw [if_pos hc, hc, isDecimal_plus_iff, isNumeral_iff]
        split
        · rename_i hnil
          simp [hnil]
        · rename_i hcs
          rw [accumulate_eq_ok_iff (Nat.zero_le most)]
          simp [hcs, and_assoc]
      · rw [if_neg hc, isDecimal_iff_of_ne hc, isNumeral_iff,
          accumulate_eq_ok_iff (Nat.zero_le most)]
        simp [and_assoc]

/-- A front of digits that is above a bound is a numeral. -/
private theorem exists_numeral_iff :
    (∃ ds rest, cs = ds ++ rest ∧ (∀ c ∈ ds, c.isDigit = true) ∧
      most < Nat.ofDigitChars 10 ds 0) ↔
    ∃ n ds rest, cs = ds ++ rest ∧ IsNumeral n ds ∧ most < n := by
  constructor
  · intro h
    obtain ⟨ds, rest, hcs, hdigits, hlt⟩ := h
    refine ⟨_, ds, rest, hcs, ⟨hdigits, ?_, rfl⟩, hlt⟩
    intro hnil
    rw [hnil, Nat.ofDigitChars_nil] at hlt
    exact absurd hlt (Nat.not_lt_zero most)
  · intro h
    obtain ⟨n, ds, rest, hcs, hnumeral, hlt⟩ := h
    exact ⟨ds, rest, hcs, hnumeral.digits, hnumeral.value ▸ hlt⟩

private theorem exceeds_plus_iff : Exceeds most ('+' :: cs) ↔
    ∃ n ds rest, cs = ds ++ rest ∧ IsNumeral n ds ∧ most < n := by
  constructor
  · intro h
    obtain ⟨n, ds, rest, hcs, hdecimal, hlt⟩ := h
    obtain ⟨d, ds, rfl⟩ := List.exists_cons_of_ne_nil hdecimal.ne_nil
    rw [List.cons_append, List.cons.injEq] at hcs
    rw [← hcs.1, isDecimal_plus_iff] at hdecimal
    exact ⟨n, ds, rest, hcs.2, hdecimal, hlt⟩
  · intro h
    obtain ⟨n, ds, rest, hcs, hnumeral, hlt⟩ := h
    exact ⟨n, '+' :: ds, rest, congrArg ('+' :: ·) hcs, isDecimal_plus_iff.mpr hnumeral, hlt⟩

private theorem exceeds_iff_of_ne (h : c ≠ '+') : Exceeds most (c :: cs) ↔
    ∃ n ds rest, c :: cs = ds ++ rest ∧ IsNumeral n ds ∧ most < n := by
  constructor
  · intro hexceeds
    obtain ⟨n, ds, rest, hcs, hdecimal, hlt⟩ := hexceeds
    obtain ⟨d, ds, rfl⟩ := List.exists_cons_of_ne_nil hdecimal.ne_nil
    rw [List.cons_append, List.cons.injEq] at hcs
    rw [← hcs.1, isDecimal_iff_of_ne h] at hdecimal
    exact ⟨n, c :: ds, rest, congrArg (c :: ·) hcs.2, hdecimal, hlt⟩
  · intro hnumerals
    obtain ⟨n, ds, rest, hcs, hnumeral, hlt⟩ := hnumerals
    exact ⟨n, ds, rest, hcs, Or.inl hnumeral, hlt⟩

/-- A text is refused for its size just if it starts with a number above the bound. -/
theorem readNat_eq_tooLarge_iff : readNat most cs = .error .tooLarge ↔ Exceeds most cs := by
  cases cs with
  | nil =>
      simp only [readNat, Except.error.injEq, reduceCtorEq, false_iff]
      intro h
      obtain ⟨n, ds, rest, hcs, hdecimal, _⟩ := h
      exact hdecimal.ne_nil (List.append_eq_nil_iff.mp hcs.symm).1
  | cons c cs =>
      rw [readNat_cons]
      by_cases hc : c = '+'
      · rw [if_pos hc, hc, exceeds_plus_iff, ← exists_numeral_iff]
        split
        · rename_i hnil
          simp [hnil]
        · rw [accumulate_eq_tooLarge_iff (Nat.zero_le most)]
      · rw [if_neg hc, exceeds_iff_of_ne hc, ← exists_numeral_iff,
          accumulate_eq_tooLarge_iff (Nat.zero_le most)]

private theorem accumulate_error {why : NumeralError} (h : accumulate most n cs = .error why) :
    why = .tooLarge ∨ why = .invalidDigit := by
  induction cs generalizing n with
  | nil => cases h
  | cons c cs ih =>
      rw [accumulate] at h
      split at h
      · cases h
        exact Or.inr rfl
      · split at h
        · exact ih h
        · cases h
          exact Or.inl rfl

private theorem readNat_error {why : NumeralError} (hne : cs ≠ [])
    (h : readNat most cs = .error why) : why = .tooLarge ∨ why = .invalidDigit := by
  obtain ⟨c, cs, rfl⟩ := List.exists_cons_of_ne_nil hne
  rw [readNat_cons] at h
  split at h
  · split at h
    · cases h
      exact Or.inr rfl
    · exact accumulate_error h
  · exact accumulate_error h

/-- Why a text is no number up to a bound. -/
inductive Misread (most : Nat) (cs : List Char) : NumeralError → Prop where
  | tooLarge (exceeds : Exceeds most cs) : Misread most cs .tooLarge
  | invalidDigit (within : ¬Exceeds most cs) (other : ∀ n, ¬IsDecimal n cs) :
      Misread most cs .invalidDigit

theorem readNat_eq_error_iff {why : NumeralError} (hne : cs ≠ []) :
    readNat most cs = .error why ↔ Misread most cs why := by
  constructor
  · intro h
    rcases readNat_error hne h with rfl | rfl
    · exact .tooLarge (readNat_eq_tooLarge_iff.mp h)
    · have hwithin : ¬Exceeds most cs := by
        intro hexceeds
        rw [readNat_eq_tooLarge_iff.mpr hexceeds] at h
        cases h
      apply Misread.invalidDigit hwithin
      intro n hdecimal
      have hle : n ≤ most := by
        apply Nat.le_of_not_lt
        intro hlt
        exact hwithin ⟨n, cs, [], (List.append_nil cs).symm, hdecimal, hlt⟩
      rw [readNat_eq_ok_iff.mpr ⟨hdecimal, hle⟩] at h
      cases h
  · intro h
    cases h with
    | tooLarge exceeds => exact readNat_eq_tooLarge_iff.mpr exceeds
    | invalidDigit within other =>
        cases hread : readNat most cs with
        | ok n => exact absurd (readNat_eq_ok_iff.mp hread).1 (other n)
        | error why =>
            rcases readNat_error hne hread with rfl | rfl
            · exact absurd (readNat_eq_tooLarge_iff.mp hread) within
            · rfl

private theorem isSigned_minus_iff : IsSigned k ('-' :: cs) ↔ ∃ n : Nat, k = -n ∧ IsNumeral n cs := by
  have hminus : ('-' : Char).isDigit ≠ true := by decide
  constructor
  · intro h
    rcases h with ⟨n, _, hdecimal⟩ | ⟨n, hk, ds, hds, hnumeral⟩
    · rw [isDecimal_iff_of_ne (by decide)] at hdecimal
      exact absurd (hdecimal.digits _ List.mem_cons_self) hminus
    · rw [(List.cons.inj hds).2]
      exact ⟨n, hk, hnumeral⟩
  · intro h
    obtain ⟨n, hk, hnumeral⟩ := h
    exact Or.inr ⟨n, hk, cs, rfl, hnumeral⟩

private theorem isSigned_iff_of_ne (h : ∀ ds, cs ≠ '-' :: ds) :
    IsSigned k cs ↔ ∃ n : Nat, k = n ∧ IsDecimal n cs := by
  constructor
  · intro hsigned
    rcases hsigned with hunsigned | ⟨_, _, ds, hds, _⟩
    · exact hunsigned
    · exact absurd hds (h ds)
  · exact Or.inl

private theorem readInt_minus (hne : cs ≠ []) :
    readInt most ('-' :: cs) = match accumulate (most + 1) 0 cs with
      | .ok n => .ok (-(n : Int))
      | .error .tooLarge => .error .tooSmall
      | .error e => .error e := by
  obtain ⟨c, cs, rfl⟩ := List.exists_cons_of_ne_nil hne
  rfl

private theorem readInt_of_ne (h : ∀ c ds, cs ≠ '-' :: c :: ds) :
    readInt most cs = (readNat most cs).map Int.ofNat := by
  unfold readInt
  split
  · exact absurd rfl (h _ _)
  · rfl

private theorem readInt_unsigned_iff (h : ∀ c ds, cs ≠ '-' :: c :: ds) :
    readInt most cs = .ok k ↔ ∃ n : Nat, k = n ∧ IsDecimal n cs ∧ n ≤ most := by
  rw [readInt_of_ne h]
  constructor
  · intro hread
    cases hnat : readNat most cs with
    | error why =>
        rw [hnat] at hread
        cases hread
    | ok n =>
        rw [hnat] at hread
        cases hread
        exact ⟨n, rfl, readNat_eq_ok_iff.mp hnat⟩
  · intro hdecimal
    obtain ⟨n, rfl, hdecimal⟩ := hdecimal
    rw [readNat_eq_ok_iff.mpr hdecimal]
    rfl

/-- What is read is an integer in decimal, as far as the bounds go. -/
theorem readInt_eq_ok_iff : readInt most cs = .ok k ↔
    IsSigned k cs ∧ -(most : Int) - 1 ≤ k ∧ k ≤ most := by
  by_cases hminus : ∃ ds, cs = '-' :: ds
  · obtain ⟨ds, rfl⟩ := hminus
    rw [isSigned_minus_iff]
    by_cases hds : ds = []
    · subst hds
      have hread : readInt most ['-'] = .error .invalidDigit := rfl
      rw [hread]
      simp [isNumeral_iff]
    · rw [readInt_minus hds]
      constructor
      · intro h
        split at h
        · rename_i n hn
          cases h
          rw [accumulate_eq_ok_iff (Nat.zero_le _)] at hn
          exact ⟨⟨n, rfl, hn.1, hds, hn.2.1⟩, by omega, by omega⟩
        · cases h
        · cases h
      · intro h
        obtain ⟨⟨n, rfl, hnumeral⟩, hge, _⟩ := h
        have hread : accumulate (most + 1) 0 ds = .ok n := by
          rw [accumulate_eq_ok_iff (Nat.zero_le _)]
          exact ⟨hnumeral.digits, hnumeral.value, by omega⟩
        rw [hread]
  · have hne : ∀ ds, cs ≠ '-' :: ds := fun ds hds => hminus ⟨ds, hds⟩
    rw [readInt_unsigned_iff fun c ds => hne (c :: ds), isSigned_iff_of_ne hne]
    constructor
    · intro h
      obtain ⟨n, rfl, hdecimal, hle⟩ := h
      exact ⟨⟨n, rfl, hdecimal⟩, by omega, by omega⟩
    · intro h
      obtain ⟨⟨n, rfl, hdecimal⟩, _, hle⟩ := h
      exact ⟨n, rfl, hdecimal, by omega⟩

end Reading

end Matchmaking.Text
