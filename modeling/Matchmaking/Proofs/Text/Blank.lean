import Matchmaking.Proofs.Text.Numeral
import Matchmaking.Text.Blank

/-!
# Texts without the blanks around them
-/

namespace Matchmaking.Text

/-- What is left of a text without the blanks at either end. -/
structure IsTrimmed (cs mid : List Char) : Prop where
  ends : ∃ lead trail, cs = lead ++ (mid ++ trail) ∧
    (∀ c ∈ lead, isBlank c = true) ∧ ∀ c ∈ trail, isBlank c = true
  first : ∀ c ∈ mid.head?, isBlank c = false
  last : ∀ c ∈ mid.getLast?, isBlank c = false

section Trimming

variable {cs ds mid : List Char}

theorem dropBlank_append_of_blank (h : ∀ c ∈ cs, isBlank c = true) :
    dropBlank (cs ++ ds) = dropBlank ds := by
  induction cs with
  | nil => rfl
  | cons c cs ih =>
      rw [List.forall_mem_cons] at h
      rw [List.cons_append, dropBlank, List.dropWhile_cons_of_pos h.1]
      exact ih h.2

theorem dropBlank_of_head (h : ∀ c ∈ cs.head?, isBlank c = false) : dropBlank cs = cs := by
  cases cs with
  | nil => rfl
  | cons c cs =>
      have hc : isBlank c = false := h c rfl
      simp [dropBlank, hc]

/-- Blanks at the front are cut off, and what is left does not start with one. -/
theorem exists_dropBlank (cs : List Char) : ∃ lead, cs = lead ++ dropBlank cs ∧
    (∀ c ∈ lead, isBlank c = true) ∧ ∀ c ∈ (dropBlank cs).head?, isBlank c = false := by
  induction cs with
  | nil => exact ⟨[], rfl, by simp, by simp [dropBlank]⟩
  | cons c cs ih =>
      cases hc : isBlank c with
      | true =>
          obtain ⟨lead, happend, hblank, hhead⟩ := ih
          have hdrop : dropBlank (c :: cs) = dropBlank cs := by simp [dropBlank, hc]
          rw [hdrop]
          exact ⟨c :: lead, congrArg (c :: ·) happend, List.forall_mem_cons.mpr ⟨hc, hblank⟩, hhead⟩
      | false =>
          have hdrop : dropBlank (c :: cs) = c :: cs := by simp [dropBlank, hc]
          rw [hdrop]
          exact ⟨[], rfl, by simp, by simp [hc]⟩

theorem trimChars_of_isTrimmed (h : IsTrimmed cs mid) : trimChars cs = mid := by
  obtain ⟨⟨lead, trail, rfl, hlead, htrail⟩, hfirst, hlast⟩ := h
  rw [trimChars, dropBlank_append_of_blank hlead]
  have hreverse : ∀ c ∈ trail.reverse, isBlank c = true := by simpa using htrail
  cases mid with
  | nil =>
      have hnil : dropBlank trail = [] := dropBlank_eq_nil_iff.mpr htrail
      rw [List.nil_append, hnil]
      rfl
  | cons c mid =>
      have hhead : dropBlank (c :: mid ++ trail) = c :: mid ++ trail := by
        apply dropBlank_of_head
        simpa using hfirst
      rw [hhead, List.reverse_append, dropBlank_append_of_blank hreverse, dropBlank_of_head,
        List.reverse_reverse]
      rwa [List.head?_reverse]

theorem isTrimmed_trimChars (cs : List Char) : IsTrimmed cs (trimChars cs) := by
  obtain ⟨lead, hlead, hblank, hhead⟩ := exists_dropBlank cs
  obtain ⟨trail, htrail, hblank', hlast⟩ := exists_dropBlank (dropBlank cs).reverse
  have hmid : dropBlank cs = trimChars cs ++ trail.reverse := by
    rw [trimChars, ← List.reverse_append, ← htrail, List.reverse_reverse]
  constructor
  · refine ⟨lead, trail.reverse, ?_, hblank, by simpa using hblank'⟩
    rw [← hmid, ← hlead]
  · rw [hmid] at hhead
    intro c hc
    apply hhead c
    cases htrim : trimChars cs with
    | nil =>
        rw [htrim] at hc
        cases hc
    | cons d ds => rwa [htrim] at hc
  · rw [trimChars, List.getLast?_reverse]
    exact hlast

theorem isTrimmed_self (h : ∀ c ∈ cs, isBlank c = false) : IsTrimmed cs cs where
  ends := ⟨[], [], (List.append_nil cs).symm, by simp, by simp⟩
  first c hc := h c (List.mem_of_mem_head? hc)
  last c hc := h c (List.mem_of_mem_getLast? hc)

end Trimming

theorem isBlank_of_isDigit {c : Char} (h : c.isDigit = true) : isBlank c = false := by
  have hrange := toNat_of_isDigit h
  simp only [isBlank, blankPoints, List.any_cons, List.any_nil, Bool.or_false,
    Bool.or_eq_false_iff, Bool.and_eq_false_iff, decide_eq_false_iff_not]
  omega

/-- There are no blanks in an integer in decimal. -/
theorem isBlank_of_mem_isSigned {k : Int} {cs : List Char} (h : IsSigned k cs) :
    ∀ c ∈ cs, isBlank c = false := by
  have hnumeral : ∀ n ds, IsNumeral n ds → ∀ c ∈ ds, isBlank c = false :=
    fun n ds hds c hc => isBlank_of_isDigit (hds.digits c hc)
  rcases h with ⟨n, -, hds | ⟨ds, rfl, hds⟩⟩ | ⟨n, -, ds, rfl, hds⟩
  · exact hnumeral n cs hds
  · exact List.forall_mem_cons.mpr ⟨by decide, hnumeral n ds hds⟩
  · exact List.forall_mem_cons.mpr ⟨by decide, hnumeral n ds hds⟩

end Matchmaking.Text
