import Matchmaking.Proofs.Json.Form
import Matchmaking.Proofs.Text.Utf8

/-!
# Reading texts

A text is read as the characters that it denotes, or refused if it holds half a pair of surrogates;
it is passed over in either case.
-/

namespace Matchmaking.Json

open Matchmaking.Text

/-! ## Steps of the machine -/

section Scan

variable {mode : TextMode} {decoded rest : List UInt8}

private theorem scanText_byte {b : UInt8} (quote : b ≠ 0x22) (backslash : b ≠ 0x5C)
    (control : ¬b < 0x20) :
    scanText mode .plain decoded (b :: rest) = scanText mode .plain (b :: decoded) rest := by
  simp [scanText, TextState.next, quote, backslash, control]

private theorem scanText_bytes {bs : List UInt8}
    (h : ∀ b ∈ bs, b ≠ 0x22 ∧ b ≠ 0x5C ∧ ¬b < 0x20) :
    scanText mode .plain decoded (bs ++ rest) =
      scanText mode .plain (bs.reverse ++ decoded) rest := by
  induction bs generalizing decoded with
  | nil => rfl
  | cons b bs ih =>
      obtain ⟨quote, backslash, control⟩ := h b List.mem_cons_self
      rw [List.cons_append, scanText_byte quote backslash control,
        ih fun c hc => h c (List.mem_cons_of_mem _ hc), List.reverse_cons, List.append_assoc]
      rfl

theorem IsPlain.bytes {c : Char} (h : IsPlain c) {b : UInt8} (hb : b ∈ String.utf8EncodeChar c) :
    b ≠ 0x22 ∧ b ≠ 0x5C ∧ ¬b < 0x20 := by
  obtain ⟨quote, backslash, control⟩ := h
  have hquote : c.toNat ≠ 0x22 := fun hc => quote (Char.toNat_inj.mp hc)
  have hbackslash : c.toNat ≠ 0x5C := fun hc => backslash (Char.toNat_inj.mp hc)
  have hbyte := toNat_of_mem_utf8EncodeChar hb
  simp only [ne_eq, ← UInt8.toNat_inj, UInt8.lt_iff_toNat_lt, UInt8.reduceToNat]
  omega

theorem scanText_plain {c : Char} (h : IsPlain c) :
    scanText mode .plain decoded (String.utf8EncodeChar c ++ rest) =
      scanText mode .plain ((String.utf8EncodeChar c).reverse ++ decoded) rest :=
  scanText_bytes fun _ => h.bytes

theorem scanText_escape {b e : UInt8} (h : escapedByte? b = some e) :
    scanText mode .plain decoded (0x5C :: b :: rest) =
      scanText mode .plain (e :: decoded) rest := by
  have hb : b ≠ 0x75 := by
    rintro rfl
    cases h
  simp [scanText, TextState.next, hb, h]

private def resume (mode : TextMode) (decoded rest : List UInt8) :
    Except Flaw (TextState × List UInt8) → Except Flaw (List UInt8 × List UInt8)
  | .error e => .error e
  | .ok (state, more) => scanText mode state (more.reverse ++ decoded) rest

private theorem resume_ok (state : TextState) (more : List UInt8) :
    resume mode decoded rest (.ok (state, more)) =
      scanText mode state (more.reverse ++ decoded) rest := rfl

private theorem scanText_hex {a b c d : UInt8} {unit : Nat} {lead : Option Nat}
    (h : hexUnit? [a, b, c, d] = some unit) :
    scanText mode (.hex [] lead) decoded (a :: b :: c :: d :: rest) =
      resume mode decoded rest (afterUnit mode unit lead) := by
  simp only [scanText, TextState.next, reduceCtorEq, false_and, if_false, List.length_nil,
    List.length_cons, Nat.reduceAdd, Nat.reduceLT, if_true, List.reverse_cons, List.reverse_nil,
    List.nil_append, List.cons_append, h]
  rfl

private theorem scanText_unit {n : Nat} {bs : List UInt8} (h : IsUnit n bs) :
    scanText mode .plain decoded (bs ++ rest) =
      resume mode decoded rest (afterUnit mode n none) := by
  cases h with
  | digits value =>
      rw [← scanText_hex value]
      rfl

private theorem scanText_second {n lead : Nat} {bs : List UInt8} (h : IsUnit n bs) :
    scanText mode (.paired lead) decoded (bs ++ rest) =
      resume mode decoded rest (afterUnit mode n (some lead)) := by
  cases h with
  | digits value =>
      rw [← scanText_hex value]
      rfl

end Scan

/-! ## Texts that denote characters -/

section Spells

variable {body : List UInt8} {cs : List Char} {decoded rest : List UInt8}

private theorem utf8EncodeChar_of_escapedByte? {b e : UInt8} (h : escapedByte? b = some e) :
    String.utf8EncodeChar (Char.ofNat e.toNat) = [e] := by
  unfold escapedByte? at h
  split at h
  · rename_i hself
    simp only [Bool.or_eq_true, beq_iff_eq, or_assoc] at hself
    cases h
    rcases hself with rfl | rfl | rfl <;> rfl
  · repeat' split at h
    all_goals cases h
    all_goals rfl

private theorem isTrail_of_isLead {m : Nat} (lead : isLead m = true) : isTrail m = false := by
  simp only [isLead, Bool.and_eq_true, decide_eq_true_eq] at lead
  have hlt : ¬0xDC00 ≤ m := by omega
  simp only [isTrail, hlt, decide_false, Bool.false_and]

private theorem afterUnit_single {n : Nat} (not_lead : isLead n = false)
    (not_trail : isTrail n = false) :
    afterUnit .read n none = .ok (.plain, String.utf8EncodeChar (Char.ofNat n)) := by
  simp only [afterUnit, reduceCtorEq, if_false, not_trail, not_lead, Bool.false_eq_true,
    codePointBytes]

private theorem afterUnit_lead {n : Nat} (lead : isLead n = true) :
    afterUnit .read n none = .ok (.paired n, []) := by
  simp only [afterUnit, reduceCtorEq, if_false, isTrail_of_isLead lead, lead, Bool.false_eq_true,
    if_true]

private theorem afterUnit_pair {m n : Nat} (trail : isTrail n = true) :
    afterUnit .read n (some m) =
      .ok (.plain, String.utf8EncodeChar (Char.ofNat (pairPoint m n))) :=
  if_pos trail

theorem scanText_of_spells (h : Spells body cs) :
    scanText .read .plain decoded (body ++ 0x22 :: rest) =
      .ok (decoded.reverse ++ cs.flatMap String.utf8EncodeChar, rest) := by
  induction h generalizing decoded with
  | nil => simp [scanText]
  | plain isPlain _ ih =>
      rw [List.append_assoc, scanText_plain isPlain, ih]
      simp
  | escape escaped _ ih =>
      rw [List.cons_append, List.cons_append, scanText_escape escaped, ih, List.flatMap_cons,
        utf8EncodeChar_of_escapedByte? escaped]
      simp
  | unit isUnit not_lead not_trail _ ih =>
      rw [List.append_assoc, scanText_unit isUnit, afterUnit_single not_lead not_trail,
        resume_ok, ih]
      simp
  | pair isUnit lead isSecond trail _ ih =>
      rw [List.append_assoc, List.append_assoc, scanText_unit isUnit, afterUnit_lead lead,
        resume_ok, scanText_second isSecond, afterUnit_pair trail, resume_ok, ih]
      simp

/-- A text is read as what it denotes. -/
theorem readTextBody_of_spells (h : Spells body cs) :
    readTextBody (body ++ 0x22 :: rest) = .ok (String.ofList cs, rest) := by
  have hchars : ofBytes? (cs.flatMap String.utf8EncodeChar) = some (String.ofList cs) := by
    rw [← bytes_ofList, ofBytes?_bytes]
  simp only [readTextBody, scanText_of_spells h, List.reverse_nil, List.nil_append, hchars]

theorem Spells.eq (h : Spells body cs) {ds : List Char} (k : Spells body ds) : cs = ds := by
  have hread : readTextBody (body ++ [0x22]) = .ok (String.ofList cs, []) :=
    readTextBody_of_spells h
  rw [readTextBody_of_spells k] at hread
  injection hread with hboth
  simpa using congrArg (fun p => p.1.toList) hboth.symm

theorem skipTextBody_of_isTextBody (h : IsTextBody body) :
    skipTextBody (body ++ 0x22 :: rest) = .ok rest := by
  suffices hscan : ∀ decoded, ∃ all,
      scanText .pass .plain decoded (body ++ 0x22 :: rest) = .ok (all, rest) by
    obtain ⟨all, hall⟩ := hscan []
    rw [skipTextBody, hall]
    rfl
  induction h with
  | nil => exact fun decoded => ⟨decoded.reverse, by simp [scanText]⟩
  | plain isPlain _ ih =>
      intro decoded
      rw [List.append_assoc, scanText_plain isPlain]
      exact ih _
  | escape escaped _ ih =>
      intro decoded
      rw [List.cons_append, List.cons_append, scanText_escape escaped]
      exact ih _
  | unit isUnit _ ih =>
      intro decoded
      rw [List.append_assoc, scanText_unit isUnit]
      exact ih _

theorem Spells.isTextBody (h : Spells body cs) : IsTextBody body := by
  induction h with
  | nil => exact .nil
  | plain isPlain _ ih => exact .plain isPlain ih
  | escape escaped _ ih => exact .escape escaped ih
  | unit isUnit _ _ _ ih => exact .unit isUnit ih
  | pair isUnit _ isSecond _ _ ih => exact .unit isUnit (.unit isSecond ih)

theorem ObjectText.isValue (o : ObjectText) : IsValue o.bytes :=
  .object o.blank o.spaced (fun m hm => (o.named m hm).isTextBody) o.values

end Spells

/-! ## Texts that denote nothing -/

section Unreadable

variable {body : List UInt8}

/-- Reading from the given state up to the closing quote fails. -/
private def Unread (state : TextState) (body : List UInt8) : Prop :=
  ∀ decoded rest, ∃ e, scanText .read state decoded (body ++ 0x22 :: rest) = .error e

private def SpellsSecond (body : List UInt8) : Prop :=
  ∃ n bs tail cs, body = bs ++ tail ∧ IsUnit n bs ∧ isTrail n = true ∧ Spells tail cs

private theorem unread_of_ne {lead : Nat} {b : UInt8} (hb : b ≠ 0x5C) (body : List UInt8)
    (decoded : List UInt8) : ∃ e, scanText .read (.paired lead) decoded (b :: body) = .error e := by
  simp [scanText, TextState.next, hb]

private theorem Unread.prepend {bs : List UInt8} (h : Unread .plain body)
    (step : ∀ decoded rest, ∃ more, scanText .read .plain decoded (bs ++ rest) =
      scanText .read .plain more rest) : Unread .plain (bs ++ body) := by
  intro decoded rest
  obtain ⟨more, hmore⟩ := step decoded (body ++ 0x22 :: rest)
  rw [List.append_assoc, hmore]
  exact h more rest

/-- A unit is a character, the first half of a pair that its other half must follow, or out of
place. -/
private theorem spelled_or_unread_unit {n : Nat} {bs : List UInt8} (isUnit : IsUnit n bs)
    (plain : (∃ cs, Spells body cs) ∨ Unread .plain body)
    (paired : ∀ lead, SpellsSecond body ∨ Unread (.paired lead) body) :
    (∃ cs, Spells (bs ++ body) cs) ∨ Unread .plain (bs ++ body) := by
  cases htrail : isTrail n with
  | true =>
      refine Or.inr fun decoded rest => ?_
      rw [List.append_assoc, scanText_unit isUnit]
      simp [afterUnit, htrail, resume]
  | false =>
      cases hlead : isLead n with
      | false =>
          refine plain.imp (fun ⟨cs, hcs⟩ => ⟨_, .unit isUnit hlead htrail hcs⟩) ?_
          intro hfails
          refine hfails.prepend fun decoded rest =>
            ⟨(String.utf8EncodeChar (Char.ofNat n)).reverse ++ decoded, ?_⟩
          rw [scanText_unit isUnit, afterUnit_single hlead htrail, resume_ok]
      | true =>
          refine (paired n).imp ?_ fun hfails decoded rest => ?_
          · rintro ⟨m, ds, tail, cs, rfl, hsecond, hm, hcs⟩
            exact ⟨_, .pair isUnit hlead hsecond hm hcs⟩
          · rw [List.append_assoc, scanText_unit isUnit, afterUnit_lead hlead, resume_ok]
            exact hfails _ _

private theorem second_or_unread_unit {n : Nat} {bs : List UInt8} (isUnit : IsUnit n bs)
    (plain : (∃ cs, Spells body cs) ∨ Unread .plain body) (lead : Nat) :
    SpellsSecond (bs ++ body) ∨ Unread (.paired lead) (bs ++ body) := by
  cases htrail : isTrail n with
  | false =>
      refine Or.inr fun decoded rest => ?_
      rw [List.append_assoc, scanText_second isUnit]
      simp [afterUnit, htrail, resume]
  | true =>
      refine plain.imp (fun ⟨cs, hcs⟩ => ⟨n, bs, body, cs, rfl, isUnit, htrail, hcs⟩)
        fun hfails decoded rest => ?_
      rw [List.append_assoc, scanText_second isUnit, afterUnit_pair htrail, resume_ok]
      exact hfails _ _

/-- The second statement is about what follows half a pair: only the other half may. -/
private theorem spelled_or_unread (h : IsTextBody body) :
    ((∃ cs, Spells body cs) ∨ Unread .plain body) ∧
      ∀ lead, SpellsSecond body ∨ Unread (.paired lead) body := by
  induction h with
  | nil =>
      exact ⟨Or.inl ⟨[], .nil⟩, fun lead => Or.inr fun decoded rest =>
        unread_of_ne (by decide) _ _⟩
  | @plain c body isPlain _ ih =>
      refine ⟨ih.1.imp (fun ⟨cs, hcs⟩ => ⟨c :: cs, .plain isPlain hcs⟩) fun hfails => ?_,
        fun lead => Or.inr fun decoded rest => ?_⟩
      · exact hfails.prepend fun decoded rest => ⟨_, scanText_plain isPlain⟩
      · obtain ⟨b, bs, hbs⟩ := List.exists_cons_of_ne_nil
          (List.ne_nil_of_length_pos (String.length_utf8EncodeChar c ▸ c.utf8Size_pos))
        have hb := isPlain.bytes (hbs ▸ List.mem_cons_self)
        rw [hbs]
        exact unread_of_ne hb.2.1 _ _
  | @escape b e body escaped _ ih =>
      refine ⟨ih.1.imp (fun ⟨cs, hcs⟩ => ⟨_, .escape escaped hcs⟩) fun hfails => ?_,
        fun lead => Or.inr fun decoded rest => ?_⟩
      · have hstep : ∀ decoded rest, ∃ more, scanText .read .plain decoded ([0x5C, b] ++ rest) =
            scanText .read .plain more rest := fun decoded rest => ⟨_, scanText_escape escaped⟩
        exact hfails.prepend hstep
      · have hb : b ≠ 0x75 := by
          rintro rfl
          cases escaped
        simp [scanText, TextState.next, hb]
  | unit isUnit _ ih =>
      exact ⟨spelled_or_unread_unit isUnit ih.1 ih.2, second_or_unread_unit isUnit ih.1⟩

/-- What stands between quotes denotes a text or cannot be read. -/
theorem spelled_or_unreadable (h : IsTextBody body) :
    (∃ cs, Spells body cs) ∨
      ∀ rest, ∃ e, readTextBody (body ++ 0x22 :: rest) = .error e := by
  refine (spelled_or_unread h).1.imp_right fun hfails rest => ?_
  obtain ⟨e, he⟩ := hfails [] rest
  exact ⟨e, by simp only [readTextBody, he]⟩

end Unreadable

end Matchmaking.Json
