import Matchmaking.Proofs.Json.Number
import Matchmaking.Proofs.Json.Text

/-!
# Passing over values

A value of any depth is passed over to its end. The machine goes from the front of a value to what
follows it and leaves alone the containers that are open around it.
-/

namespace Matchmaking.Json

variable {ws word rest v core : List UInt8} {c : Container} {stack : List Container}

theorem readWord_append : readWord word (word ++ rest) = .ok rest := by
  induction word with
  | nil => rfl
  | cons w word ih => rw [List.cons_append, readWord, if_pos rfl, ih]

/-! ## Containers -/

/-- A piece of a container, blanks before it aside, that is passed over in at most two steps for
each byte. -/
structure Passes (c : Container) (core : List UInt8) : Prop where
  begins : ∃ b tail, core = b :: tail ∧ isSpace b = false ∧ b ≠ c.close
  passes : ∀ (stack : List Container) {ws rest : List UInt8}, Blank ws → Follows rest →
    ∃ bs k, skipLabel c (ws ++ (core ++ rest)) = .ok bs ∧ k ≤ 2 * core.length ∧
      ∀ fuel, skipOpen (fuel + 1 + k) .value (c :: stack) bs =
        skipOpen (fuel + 1) .sequel (c :: stack) rest

theorem follows_close (c : Container) : Follows (c.close :: rest) := by
  cases c <;> exact follows_cons (by decide)

private theorem skipOpen_sequel_close (fuel : Nat) :
    skipOpen (fuel + 1) .sequel (c :: stack) (c.close :: rest) =
      skipOpen fuel .sequel stack rest := by
  have hspace : isSpace c.close = false := by cases c <;> decide
  have hcomma : c.close ≠ 0x2C := by cases c <;> decide
  simp only [skipOpen, dropSpace_cons hspace, hcomma, if_false, if_true]

private theorem skipOpen_sequel_comma {bs : List UInt8} (fuel : Nat)
    (label : skipLabel c rest = .ok bs) :
    skipOpen (fuel + 1) .sequel (c :: stack) (0x2C :: rest) =
      skipOpen fuel .value (c :: stack) bs := by
  have hspace : isSpace 0x2C = false := by decide
  simp only [skipOpen, dropSpace_cons hspace, if_true, label]

private def tailBytes (pieces : List (List UInt8 × List UInt8)) : List UInt8 :=
  pieces.flatMap fun p => 0x2C :: (p.1 ++ p.2)

private theorem follows_tailBytes (c : Container) (pieces : List (List UInt8 × List UInt8))
    (rest : List UInt8) : Follows (tailBytes pieces ++ c.close :: rest) := by
  cases pieces with
  | nil => exact follows_close c
  | cons p pieces => exact follows_cons (Or.inl rfl)

private theorem skipOpen_sequel (pieces : List (List UInt8 × List UInt8))
    (stack : List Container) (rest : List UInt8) (blank : ∀ p ∈ pieces, Blank p.1)
    (h : ∀ p ∈ pieces, Passes c p.2) :
    ∃ k ≤ 2 * (tailBytes pieces).length, ∀ fuel,
      skipOpen (fuel + k + 1) .sequel (c :: stack) (tailBytes pieces ++ c.close :: rest) =
        skipOpen fuel .sequel stack rest := by
  induction pieces with
  | nil => exact ⟨0, Nat.zero_le _, skipOpen_sequel_close⟩
  | cons p pieces ih =>
      obtain ⟨k, hk, hrest⟩ := ih (fun q hq => blank q (List.mem_cons_of_mem _ hq))
        fun q hq => h q (List.mem_cons_of_mem _ hq)
      obtain ⟨bs, j, hlabel, hj, hpass⟩ := (h p List.mem_cons_self).passes stack
        (blank p List.mem_cons_self) (follows_tailBytes c pieces rest)
      have hcons : tailBytes (p :: pieces) ++ c.close :: rest =
          0x2C :: (p.1 ++ (p.2 ++ (tailBytes pieces ++ c.close :: rest))) := by
        simp [tailBytes]
      refine ⟨k + 1 + j, ?_, fun fuel => ?_⟩
      · simp only [tailBytes, List.flatMap_cons, List.length_append, List.length_cons] at hk ⊢
        omega
      · rw [hcons, skipOpen_sequel_comma _ hlabel, ← Nat.add_assoc fuel, ← Nat.add_assoc fuel,
          hpass, hrest]

/-- The pieces of a container, and its end. -/
private theorem skipOpen_part (pieces : List (List UInt8 × List UInt8)) {lead : List UInt8}
    (stack : List Container) (rest : List UInt8) (blank_lead : Blank lead)
    (blank : ∀ p ∈ pieces, Blank p.1) (h : ∀ p ∈ pieces, Passes c p.2) :
    ∃ k ≤ 2 * (separated (pieces.map fun p => p.1 ++ p.2)).length + 1, ∀ fuel,
      skipOpen (fuel + k + 1) .part (c :: stack)
        (lead ++ (separated (pieces.map fun p => p.1 ++ p.2) ++ c.close :: rest)) =
          skipOpen fuel .sequel stack rest := by
  cases pieces with
  | nil =>
      refine ⟨0, Nat.zero_le _, fun fuel => ?_⟩
      have hspace : isSpace c.close = false := by cases c <;> decide
      simp only [List.map_nil, separated, List.nil_append, skipOpen,
        dropSpace_append blank_lead, dropSpace_cons hspace, if_true]
  | cons p pieces =>
      have hp := h p List.mem_cons_self
      obtain ⟨b, tail, hcore, hspace, hclose⟩ := hp.begins
      obtain ⟨k, hk, hrest⟩ := skipOpen_sequel pieces stack rest
        (fun q hq => blank q (List.mem_cons_of_mem _ hq))
        fun q hq => h q (List.mem_cons_of_mem _ hq)
      obtain ⟨bs, j, hlabel, hj, hpass⟩ := hp.passes stack blank_nil
        (follows_tailBytes c pieces rest)
      have htail : (pieces.map fun p => p.1 ++ p.2).flatMap (0x2C :: ·) = tailBytes pieces := by
        simp [tailBytes, List.flatMap_map]
      have hbytes : separated ((p :: pieces).map fun p => p.1 ++ p.2) =
          p.1 ++ (p.2 ++ tailBytes pieces) := by
        rw [List.map_cons, separated, htail, List.append_assoc]
      rw [hbytes]
      refine ⟨k + 1 + j, ?_, fun fuel => ?_⟩
      · simp only [List.length_append]
        omega
      · have hdrop : dropSpace (lead ++ ((p.1 ++ (p.2 ++ tailBytes pieces)) ++ c.close :: rest)) =
            b :: (tail ++ (tailBytes pieces ++ c.close :: rest)) := by
          rw [dropSpace_append blank_lead, List.append_assoc, List.append_assoc,
            dropSpace_append (blank p List.mem_cons_self), hcore, List.cons_append,
            dropSpace_cons hspace]
        rw [List.nil_append, hcore, List.cons_append] at hlabel
        simp only [skipOpen, hdrop, hclose, if_false, hlabel]
        rw [← Nat.add_assoc fuel, ← Nat.add_assoc fuel, hpass, hrest]

/-! ## Values -/

/-- A value that is passed over in at most two steps for each byte. -/
private def Skips (v : List UInt8) : Prop :=
  ∀ (stack : List Container) {ws rest : List UInt8}, Blank ws → Follows rest →
    ∃ k ≤ 2 * v.length, ∀ fuel,
      skipOpen (fuel + k) .value stack (ws ++ (v ++ rest)) = skipOpen fuel .sequel stack rest

private theorem skips_scalar {b : UInt8} {tail : List UInt8} (begins : Begins b)
    (not_list : b ≠ 0x5B) (not_object : b ≠ 0x7B)
    (scalar : ∀ {rest}, Follows rest → skipScalar b (tail ++ rest) = .ok rest) :
    Skips (b :: tail) := by
  intro stack ws rest blank follows
  refine ⟨1, ?_, fun fuel => ?_⟩
  · rw [List.length_cons]
    omega
  · simp only [skipOpen, dropSpace_append blank, List.cons_append, dropSpace_cons begins.not_space,
      not_list, not_object, if_false, scalar follows]

private def opening : Container → UInt8
  | .list => 0x5B
  | .object => 0x7B

private theorem skips_container (c : Container) (pieces : List (List UInt8 × List UInt8))
    {lead : List UInt8} (blank_lead : Blank lead) (blank : ∀ p ∈ pieces, Blank p.1)
    (h : ∀ p ∈ pieces, Passes c p.2) :
    Skips (opening c :: (lead ++ (separated (pieces.map fun p => p.1 ++ p.2) ++ [c.close]))) := by
  intro stack ws rest blank_ws _
  obtain ⟨k, hk, hparts⟩ := skipOpen_part pieces stack rest blank_lead blank h
  refine ⟨k + 1 + 1, ?_, fun fuel => ?_⟩
  · simp only [List.length_cons, List.length_append, List.length_nil]
    omega
  · rw [← hparts, List.cons_append, List.append_assoc, List.append_assoc, List.singleton_append]
    cases c <;> simp only [opening, skipOpen, dropSpace_append blank_ws] <;> rfl

private theorem Skips.passes {p : Part} (h : Skips p.value) (value : IsValue p.value)
    (spaced : p.Spaced) : Passes .list (p.value ++ p.after) where
  begins := by
    obtain ⟨b, tail, hvalue, hb⟩ := value.exists_cons
    exact ⟨b, tail ++ p.after, by rw [hvalue, List.cons_append], hb.not_space, hb.ne_listEnd⟩
  passes := by
    intro stack ws rest blank follows
    obtain ⟨k, hk, hpass⟩ := h (.list :: stack) blank (spaced.after.follows follows)
    refine ⟨_, k, rfl, ?_, fun fuel => ?_⟩
    · rw [List.length_append]
      omega
    · rw [List.append_assoc, hpass]
      simp only [skipOpen, dropSpace_append spaced.after]

private theorem skipLabel_append {m : Member} (spaced : m.Spaced) (label : IsTextBody m.label)
    (blank : Blank ws) :
    skipLabel .object (ws ++ (quote m.label ++ (m.gap ++ (0x3A :: rest)))) = .ok rest := by
  have hquote : isSpace 0x22 = false := by decide
  have hcolon : isSpace 0x3A = false := by decide
  simp only [skipLabel, dropSpace_append blank, quote, List.cons_append, dropSpace_cons hquote,
    List.append_assoc, List.nil_append, skipTextBody_of_isTextBody label,
    dropSpace_append spaced.gap, dropSpace_cons hcolon, ne_eq, not_true_eq_false, if_false, if_true]

private theorem Skips.passes_member {m : Member} (h : Skips m.value) (spaced : m.Spaced)
    (label : IsTextBody m.label) :
    Passes .object (quote m.label ++ (m.gap ++ (0x3A :: m.toPart.bytes))) where
  begins := ⟨0x22, _, rfl, by decide, by decide⟩
  passes := by
    intro stack ws rest blank follows
    obtain ⟨k, hk, hpass⟩ := h (.object :: stack) spaced.before (spaced.after.follows follows)
    refine ⟨m.toPart.bytes ++ rest, k, ?_, ?_, fun fuel => ?_⟩
    · rw [List.append_assoc, List.append_assoc]
      exact skipLabel_append spaced label blank
    · simp only [Part.bytes, List.length_append, List.length_cons]
      omega
    · rw [Part.bytes, List.append_assoc, List.append_assoc, hpass]
      simp only [skipOpen, dropSpace_append spaced.after]

private theorem skips_of_isValue (h : IsValue v) : Skips v := by
  induction h with
  | null =>
      exact skips_scalar (by decide) (by decide) (by decide)
        fun _ => readWord_append
  | flag b =>
      cases b <;>
        exact skips_scalar (by decide) (by decide) (by decide)
          fun _ => readWord_append
  | number isNumber =>
      obtain ⟨b, heads, hb⟩ := isNumber.exists_heads
      obtain ⟨tail, rfl⟩ := heads.cons
      have hne : b ≠ 0x5B ∧ b ≠ 0x7B ∧ b ≠ 0x22 ∧ b ≠ 0x6E ∧ b ≠ 0x74 ∧ b ≠ 0x66 := by
        refine ⟨?_, ?_, ?_, ?_, ?_, ?_⟩ <;> rintro rfl <;> revert hb <;> decide
      refine skips_scalar heads.toBegins hne.1 hne.2.1 fun follows => ?_
      simp only [skipScalar, hne, if_false, if_pos hb]
      exact skipNumber_append isNumber follows.endsNumber
  | @text body isTextBody =>
      refine skips_scalar (by decide) (by decide) (by decide) fun _ => ?_
      rw [List.append_assoc]
      exact skipTextBody_of_isTextBody isTextBody
  | @list lead parts blank_lead spaced values ih =>
      have hparts := skips_container .list (parts.map fun p => (p.before, p.value ++ p.after))
        blank_lead (by simpa using fun p hp => (spaced p hp).before)
        (by simpa using fun p hp => (ih p hp).passes (values p hp) (spaced p hp))
      rwa [List.map_map] at hparts
  | @object lead ms blank_lead spaced labels values ih =>
      have hmembers := skips_container .object
        (ms.map fun m => (m.lead, quote m.label ++ (m.gap ++ (0x3A :: m.toPart.bytes))))
        blank_lead (by simpa using fun m hm => (spaced m hm).lead)
        (by simpa using fun m hm => (ih m hm).passes_member (spaced m hm) (labels m hm))
      rwa [List.map_map] at hmembers

/-- A value is passed over. -/
theorem skipValue_append (h : IsValue v) (blank : Blank ws) (follows : Follows rest) :
    skipValue (ws ++ (v ++ rest)) = .ok rest := by
  obtain ⟨k, hk, hpass⟩ := skips_of_isValue h [] blank follows
  obtain ⟨fuel, hfuel⟩ : ∃ fuel, 2 * (ws ++ (v ++ rest)).length + 2 = fuel + 1 + k := by
    refine ⟨2 * (ws ++ (v ++ rest)).length + 1 - k, ?_⟩
    simp only [List.length_append]
    omega
  rw [skipValue, hfuel, hpass, skipOpen]

end Matchmaking.Json
