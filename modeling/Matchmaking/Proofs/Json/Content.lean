import Matchmaking.Proofs.Json.Record

/-!
# Refusals for content

A document is refused for its form or for its content. Where every part that is looked at can be
made out, an object is read or refused for its content, and what follows the object does not count.
-/

namespace Matchmaking.Json

open Reader

/-- A text that denotes characters, a number that is in range, or any other value. -/
structure Legible (v : List UInt8) : Prop where
  text : ∀ body, v = quote body → ∃ cs, Spells body cs
  number : ∀ t, IsNumber t v → ∃ x, t.value = .ok x

namespace Reader

variable {α β : Type} {read : Reader α} {v ws rest bs : List UInt8} {b : UInt8}

/-- The outcome of reading is no objection to the form. -/
def Settles (outcome : Except Failure α) : Prop :=
  ∀ e, outcome = .error e → e.fault.isContent = true

/-- A legible value is taken or refused for its content. -/
def Judges (read : Reader α) : Prop :=
  ∀ v ws rest, IsValue v → Legible v → Blank ws → Follows rest → Settles (read (ws ++ (v ++ rest)))

theorem settles_ok (a : α) : Settles (.ok a) := by
  intro e h
  cases h

theorem settles_error {e : Failure} (h : e.fault.isContent = true) :
    Settles (.error e : Except Failure α) := by
  intro e' he'
  cases he'
  exact h

theorem Settles.bind {f : α → Reader β} (h : Settles (read bs))
    (next : ∀ a left, read bs = .ok (a, left) → Settles (f a left)) :
    Settles ((read >>= f) bs) := by
  cases hread : read bs with
  | ok r =>
      rw [bind_of_ok hread]
      exact next r.1 r.2 hread
  | error e =>
      rw [bind_of_error hread]
      exact settles_error (h e hread)

/-! ## Scalars -/

private theorem found_word {word : List UInt8} {x : Found} :
    (advance >>= fun _ => passing (readWord word) >>= fun _ => pure x) (b :: (word ++ rest)) =
      .ok (x, rest) := by
  rw [advance_bind, bind_of_ok (passing_readWord word rest)]
  rfl

private theorem exists_found (value : IsValue v) (legible : Legible v) (blank : Blank ws)
    (follows : Follows rest) : ∃ x, found (ws ++ (v ++ rest)) = .ok x := by
  rw [found, peek_bind_append blank]
  cases value with
  | null =>
      have hspace : isSpace 0x6E = false := by decide
      rw [nullBytes, List.cons_append, peek_bind_cons hspace]
      exact ⟨_, found_word⟩
  | flag b =>
      cases b with
      | true =>
          have hspace : isSpace 0x74 = false := by decide
          rw [flagBytes, if_pos rfl, List.cons_append, peek_bind_cons hspace]
          exact ⟨_, found_word⟩
      | false =>
          have hspace : isSpace 0x66 = false := by decide
          rw [flagBytes, if_neg Bool.false_ne_true, List.cons_append, peek_bind_cons hspace]
          exact ⟨_, found_word⟩
  | @number t v isNumber =>
      obtain ⟨b, heads, hb⟩ := isNumber.exists_heads
      obtain ⟨x, hx⟩ := legible.number t isNumber
      have hscan : scanning readNumber (v ++ rest) = .ok (x, rest) := by
        simp only [scanning, readNumber_append isNumber follows.endsNumber, hx, Except.map]
      have hne : b ≠ 0x6E ∧ b ≠ 0x74 ∧ b ≠ 0x66 ∧ b ≠ 0x22 := by
        refine ⟨?_, ?_, ?_, ?_⟩ <;> rintro rfl <;> revert hb <;> decide
      rw [← List.nil_append (v ++ rest), peek_bind_heads blank_nil heads rfl]
      simp only [hne, hb, if_false, if_true]
      exact ⟨_, bind_of_ok hscan⟩
  | @text body isTextBody =>
      obtain ⟨cs, spells⟩ := legible.text body rfl
      have hspace : isSpace 0x22 = false := by decide
      have hscan : scanning readTextBody (body ++ 0x22 :: rest) = .ok (String.ofList cs, rest) := by
        simp only [scanning, readTextBody_of_spells spells]
      rw [quote_append, peek_bind_cons hspace]
      show ∃ x, (scanning readTextBody >>= fun s => pure (Found.text s))
        (body ++ 0x22 :: rest) = .ok x
      exact ⟨_, bind_of_ok hscan⟩
  | list =>
      have hspace : isSpace 0x5B = false := by decide
      rw [listBytes_append, peek_bind_cons hspace]
      exact ⟨_, rfl⟩
  | object =>
      have hspace : isSpace 0x7B = false := by decide
      rw [objectBytes_append, peek_bind_cons hspace]
      exact ⟨_, rfl⟩

theorem exists_isContent_of_mismatch {f : Option UInt8 → Reader α} (expected : String)
    (value : IsValue v) (legible : Legible v) (heads : Heads b v)
    (h : f (some b) = mismatch expected) (blank : Blank ws) (follows : Follows rest) :
    ∃ e, (peek >>= f) (ws ++ (v ++ rest)) = .error e ∧ e.fault.isContent = true := by
  rw [peek_bind_heads blank heads h, ← List.nil_append (v ++ rest)]
  obtain ⟨x, hx⟩ := exists_found value legible blank_nil follows
  rw [mismatch, bind_of_ok hx]
  exact ⟨_, rfl, rfl⟩

theorem settles_of_mismatch {f : Option UInt8 → Reader α} (expected : String) (value : IsValue v)
    (legible : Legible v) (heads : Heads b v) (h : f (some b) = mismatch expected)
    (blank : Blank ws) (follows : Follows rest) : Settles ((peek >>= f) (ws ++ (v ++ rest))) := by
  obtain ⟨e, he, content⟩ :=
    exists_isContent_of_mismatch expected value legible heads h blank follows
  rw [he]
  exact settles_error content

theorem textFor_judges (expected : String) : Judges (textFor expected) := by
  intro v ws rest value legible blank follows
  obtain ⟨b, heads⟩ := value.exists_heads
  by_cases hb : b = 0x22
  · obtain ⟨body, isTextBody, rfl⟩ := heads.text hb
    obtain ⟨cs, spells⟩ := legible.text body rfl
    rw [reads_textFor spells ws rest blank follows]
    exact settles_ok _
  · apply settles_of_mismatch expected value legible heads _ blank follows
    split
    · rename_i h
      exact absurd (Option.some.inj h) hb
    · contradiction
    · rfl

theorem named_judges (expected : String) (parse : String → Except String α) :
    Judges (named expected parse) := by
  intro v ws rest value legible blank follows
  apply (textFor_judges expected v ws rest value legible blank follows).bind
  intro text left _
  cases hparse : parse text with
  | ok a => exact settles_ok _
  | error why => exact settles_error rfl

theorem flag_judges : Judges flag := by
  intro v ws rest value legible blank follows
  obtain ⟨b, heads⟩ := value.exists_heads
  by_cases hb : b = 0x74 ∨ b = 0x66
  · obtain rfl := heads.flag hb
    rw [reads_flag _ ws rest blank follows]
    exact settles_ok _
  · rw [not_or] at hb
    apply settles_of_mismatch "a boolean" value legible heads _ blank follows
    split
    · rename_i h
      exact absurd (Option.some.inj h) hb.1
    · rename_i h
      exact absurd (Option.some.inj h) hb.2
    · contradiction
    · rfl

/-! ## Objects -/

section Members

variable {σ : Type} {add : String → σ → Reader σ} {m : Member} {ms : List Member}

/-- A member is added or refused for its content. -/
def AddJudges (add : String → σ → Reader σ) (m : Member) : Prop :=
  ∀ s, (∃ s', Adds add m s s') ∨ ∀ rest, Follows rest →
    ∃ e, add m.name s (m.gap ++ (0x3A :: (m.before ++ (m.value ++ rest)))) = .error e ∧
      e.fault.isContent = true

/-- The members of an object are gathered to its end, or one of them is refused for its content. -/
private theorem settles_members (spaced : ∀ m ∈ ms, m.Spaced) (named : ∀ m ∈ ms, m.Named)
    (judged : ∀ m ∈ ms, AddJudges add m) {s : σ} {fuel : Nat} {first : Bool}
    (hfuel : ms.length < fuel) (hat : AtMembers first ms rest bs) :
    Settles (members add fuel first s bs) := by
  induction ms generalizing s fuel first bs with
  | nil =>
      obtain ⟨fuel, rfl⟩ := Nat.exists_eq_succ_of_ne_zero (Nat.ne_of_gt hfuel)
      cases hat with
      | nil more =>
          rw [members, bind_of_ok more]
          exact settles_ok _
  | cons m ms ih =>
      obtain ⟨fuel, rfl⟩ := Nat.exists_eq_succ_of_ne_zero (Nat.ne_zero_of_lt hfuel)
      have hspaced := spaced m List.mem_cons_self
      have hnamed := named m List.mem_cons_self
      have others : ∀ n ∈ ms, n.Spaced := fun n hn => spaced n (List.mem_cons_of_mem m hn)
      rcases judged m List.mem_cons_self s with ⟨s', adds⟩ | refuses
      · rw [members_of_adds hspaced hnamed adds hat]
        exact ih others (fun n hn => named n (List.mem_cons_of_mem m hn))
          (fun n hn => judged n (List.mem_cons_of_mem m hn)) (Nat.lt_of_succ_lt_succ hfuel)
          (atMembers_next hspaced.after others rest)
      · obtain ⟨e, he, content⟩ := refuses _ (follows_after hspaced ms rest)
        rw [members, bind_of_ok hat.moreMembers]
        show Settles ((scanning readTextBody >>= fun name => add name s >>= _) _)
        rw [bind_of_ok (scanning_name hnamed _), bind_of_error he]
        exact settles_error content

end Members

end Reader

namespace Fields

variable {αs : List Type} {fields : Fields αs} {m : Member}

def Judges : {αs : List Type} → Fields αs → Prop
  | [], .nil => True
  | _ :: _, .cons field rest => field.read.Judges ∧ rest.Judges

theorem addJudges (decides : fields.Decides) (judges : fields.Judges) (spaced : m.Spaced)
    (value : IsValue m.value) (legible : m.name ∈ fields.names → Legible m.value) :
    AddJudges fields.add m := by
  induction fields with
  | nil =>
      intro slots
      refine Or.inl ⟨(), fun rest follows => ?_⟩
      rw [add, bind_of_ok (colon_append spaced.gap)]
      exact bind_of_ok (within_of_ok _ (reads_skip value _ _ spaced.before follows))
  | cons field others ih =>
      rintro ⟨slot, slots⟩
      by_cases hname : m.name = field.name
      · cases slot with
        | some a =>
            refine Or.inr fun rest _ => ⟨⟨[], .duplicateField m.name⟩, ?_, rfl⟩
            rw [add_of_eq hname]
            rfl
        | none =>
            rcases decides.1 _ value with ⟨a, ha⟩ | hrefuses
            · exact Or.inl ⟨(some a, slots), adds_of_vacant hname spaced ha⟩
            · refine Or.inr fun rest follows => ?_
              obtain ⟨e, he⟩ := hrefuses _ _ spaced.before follows
              have hlegible := legible (hname ▸ List.mem_cons_self)
              have content := judges.1 _ _ _ value hlegible spaced.before follows e he
              rw [add_of_eq hname]
              show ∃ e, (colon >>= fun _ => within _ field.read >>= _) _ = .error e ∧ _
              rw [bind_of_ok (colon_append spaced.gap)]
              exact ⟨_, bind_of_error (within_of_error _ he), content⟩
      · have hlegible : m.name ∈ others.names → Legible m.value := fun h =>
          legible (List.mem_cons_of_mem field.name h)
        rcases ih decides.2 judges.2 hlegible slots with ⟨slots', adds⟩ | refuses
        · refine Or.inl ⟨(slot, slots'), fun rest follows => ?_⟩
          rw [add_of_ne hname, bind_of_ok (adds rest follows)]
          rfl
        · refine Or.inr fun rest follows => ?_
          obtain ⟨e, he, content⟩ := refuses rest follows
          exact ⟨e, by rw [add_of_ne hname, bind_of_error he], content⟩

theorem isContent_of_complete {slots : Slots αs} {fault : Fault}
    (h : fields.complete slots = .error fault) : fault.isContent = true := by
  induction fields with
  | nil => cases h
  | cons field others ih =>
      rw [complete] at h
      split at h
      · cases h
        rfl
      · split at h
        · rename_i e he
          cases h
          exact ih he
        · cases h

end Fields

namespace Reader

variable {αs : List Type} {fields : Fields αs} {name : String} {v ws rest : List UInt8}

/-- An object whose fields are legible is read as a record or refused for its content, whatever
follows it. -/
theorem settles_record (decides : fields.Decides) (judges : fields.Judges) (o : ObjectText)
    (legible : ∀ m ∈ o.members, m.name ∈ fields.names → Legible m.value) (blank : Blank ws) :
    Settles (record name fields (ws ++ (o.bytes ++ rest))) := by
  have hmembers : Settles (object fields.add fields.vacant
      (o.lead ++ (separated (o.members.map Member.bytes) ++ 0x7D :: rest))) := by
    refine settles_members o.spaced o.named (fun m hm => ?_) ?_
      (atMembers_first o.blank o.spaced rest)
    · exact Fields.addJudges decides judges (o.spaced m hm) (o.values m hm) (legible m hm)
    · have hle := length_le_separated (o.members.map Member.bytes) (by simp [Member.bytes, quote])
      rw [List.length_map] at hle
      simp only [List.length_append]
      omega
  rw [ObjectText.bytes, record_object blank]
  apply hmembers.bind
  intro slots left _
  cases hcomplete : fields.complete slots with
  | ok as => exact settles_ok _
  | error fault => exact settles_error (Fields.isContent_of_complete hcomplete)

/-- A scalar is refused for its content where a record is due. -/
theorem exists_isContent_of_scalar (value : IsValue v) (legible : Legible v)
    (not_list : ∀ l : ListText, v ≠ l.bytes) (not_object : ∀ lead ms, v ≠ objectBytes lead ms)
    (blank : Blank ws) (follows : Follows rest) :
    ∃ e, record name fields (ws ++ (v ++ rest)) = .error e ∧ e.fault.isContent = true := by
  obtain ⟨b, heads⟩ := value.exists_heads
  have hlist : b ≠ 0x5B := by
    intro hb
    obtain ⟨l, hl⟩ := heads.list hb
    exact not_list l hl
  have hobject : b ≠ 0x7B := by
    intro hb
    obtain ⟨lead, ms, -, -, -, -, hms⟩ := heads.object hb
    exact not_object lead ms hms
  refine exists_isContent_of_mismatch s!"struct {name}" value legible heads ?_ blank follows
  split
  · contradiction
  · rename_i h
    exact absurd (Option.some.inj h) hlist
  · rename_i h
    exact absurd (Option.some.inj h) hobject
  · rfl

end Reader

end Matchmaking.Json
