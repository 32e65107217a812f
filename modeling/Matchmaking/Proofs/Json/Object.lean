import Matchmaking.Proofs.Json.Reader

/-!
# Reading the members of an object

The members of an object are read one after another into what has been gathered. What is gathered is
described by a property of the members seen so far: each further member keeps it up or ends the
reading.
-/

namespace Matchmaking.Json

namespace Reader

variable {σ : Type} {add : String → σ → Reader σ} {s : σ} {m : Member} {ms : List Member}
  {ws rest bs lead : List UInt8} {first : Bool}

/-- The bytes of the members of an object after a first one, and the end of the object. -/
def objectTail (ms : List Member) (rest : List UInt8) : List UInt8 :=
  (ms.map Member.bytes).flatMap (0x2C :: ·) ++ 0x7D :: rest

theorem follows_objectTail (ms : List Member) (rest : List UInt8) :
    Follows (objectTail ms rest) := by
  cases ms with
  | nil => exact follows_cons (by decide)
  | cons m ms => exact follows_cons (Or.inl rfl)

def Unreadable (m : Member) : Prop :=
  ∀ rest, ∃ e, readTextBody (m.label ++ 0x22 :: rest) = .error e

/-- A member is added, from the colon on. -/
def Adds (add : String → σ → Reader σ) (m : Member) (s s' : σ) : Prop :=
  ∀ rest, Follows rest →
    add m.name s (m.gap ++ (0x3A :: (m.before ++ (m.value ++ rest)))) = .ok (s', rest)

/-- A member is refused, from the colon on. -/
def AddFails (add : String → σ → Reader σ) (m : Member) (s : σ) : Prop :=
  ∀ rest, Follows rest →
    ∃ e, add m.name s (m.gap ++ (0x3A :: (m.before ++ (m.value ++ rest)))) = .error e

/-- A reader stands before the members of an object that are left, or before its end. -/
inductive AtMembers (first : Bool) : List Member → List UInt8 → List UInt8 → Prop where
  | nil {rest bs : List UInt8} (more : moreMembers first bs = .ok (false, 0x7D :: rest)) :
      AtMembers first [] rest bs
  | cons {m : Member} {ms : List Member} {rest bs : List UInt8}
      (more : moreMembers first bs = .ok (true, m.label ++ 0x22 :: (m.gap ++ (0x3A ::
        (m.before ++ (m.value ++ (m.after ++ objectTail ms rest))))))) :
      AtMembers first (m :: ms) rest bs

theorem AtMembers.moreMembers (h : AtMembers first (m :: ms) rest bs) :
    moreMembers first bs = .ok (true, m.label ++ 0x22 :: (m.gap ++ (0x3A ::
      (m.before ++ (m.value ++ (m.after ++ objectTail ms rest)))))) := by
  cases h with
  | cons more => exact more

theorem atMembers_nil (blank : Blank ws) (first : Bool) (rest : List UInt8) :
    AtMembers first [] rest (ws ++ 0x7D :: rest) := by
  have hspace : isSpace 0x7D = false := by decide
  refine .nil ?_
  rw [Reader.moreMembers, peek_bind_append blank, peek_bind_cons hspace]
  rfl

theorem atMembers_first (blank : Blank lead) (spaced : ∀ m ∈ ms, m.Spaced) (rest : List UInt8) :
    AtMembers true ms rest (lead ++ (separated (ms.map Member.bytes) ++ 0x7D :: rest)) := by
  cases ms with
  | nil => exact atMembers_nil blank true rest
  | cons m ms =>
      have hspace : isSpace 0x22 = false := by decide
      have hbytes : lead ++ (separated ((m :: ms).map Member.bytes) ++ 0x7D :: rest) =
          (lead ++ m.lead) ++ 0x22 :: (m.label ++ 0x22 :: (m.gap ++ (0x3A ::
            (m.before ++ (m.value ++ (m.after ++ objectTail ms rest)))))) := by
        simp [separated, Member.bytes, Part.bytes, quote, objectTail]
      rw [hbytes]
      refine .cons ?_
      rw [Reader.moreMembers, peek_bind_append (blank.append (spaced m List.mem_cons_self).lead),
        peek_bind_cons hspace]
      rfl

theorem atMembers_next (blank : Blank ws) (spaced : ∀ m ∈ ms, m.Spaced) (rest : List UInt8) :
    AtMembers false ms rest (ws ++ objectTail ms rest) := by
  cases ms with
  | nil => exact atMembers_nil blank false rest
  | cons m ms =>
      have hcomma : isSpace 0x2C = false := by decide
      have hspace : isSpace 0x22 = false := by decide
      have hbytes : ws ++ objectTail (m :: ms) rest =
          ws ++ 0x2C :: (m.lead ++ 0x22 :: (m.label ++ 0x22 :: (m.gap ++ (0x3A ::
            (m.before ++ (m.value ++ (m.after ++ objectTail ms rest))))))) := by
        simp [Member.bytes, Part.bytes, quote, objectTail]
      rw [hbytes]
      refine .cons ?_
      rw [Reader.moreMembers, peek_bind_append blank, peek_bind_cons hcomma]
      show (advance >>= fun _ => peek >>= _) _ = _
      rw [advance_bind, peek_bind_append (spaced m List.mem_cons_self).lead, peek_bind_cons hspace]
      rfl

theorem colon_append (blank : Blank ws) : colon (ws ++ 0x3A :: bs) = .ok ((), bs) := by
  have hspace : isSpace 0x3A = false := by decide
  rw [colon, peek_bind_append blank, peek_bind_cons hspace]
  rfl

/-! ## One member -/

section Member

variable {s' : σ} {fuel : Nat}

theorem scanning_name (named : m.Named) (rest : List UInt8) :
    scanning readTextBody (m.label ++ 0x22 :: rest) = .ok (m.name, rest) := by
  simp only [scanning, readTextBody_of_spells named, String.ofList_toList]

private theorem scanning_unreadable (unreadable : Unreadable m) (rest : List UInt8) :
    ∃ e, scanning readTextBody (m.label ++ 0x22 :: rest) = .error e := by
  obtain ⟨e, he⟩ := unreadable rest
  exact ⟨⟨[], .flaw e⟩, by simp only [scanning, he]⟩

theorem follows_after (spaced : m.Spaced) (ms : List Member) (rest : List UInt8) :
    Follows (m.after ++ objectTail ms rest) :=
  spaced.after.follows (follows_objectTail ms rest)

theorem members_of_adds (spaced : m.Spaced) (named : m.Named) (adds : Adds add m s s')
    (hat : AtMembers first (m :: ms) rest bs) :
    members add (fuel + 1) first s bs =
      members add fuel false s' (m.after ++ objectTail ms rest) := by
  rw [members, bind_of_ok hat.moreMembers]
  show (scanning readTextBody >>= fun name => add name s >>= _) _ = _
  rw [bind_of_ok (scanning_name named _), bind_of_ok (adds _ (follows_after spaced ms rest))]

private theorem members_of_addFails (spaced : m.Spaced) (named : m.Named) (fails : AddFails add m s)
    (hat : AtMembers first (m :: ms) rest bs) : ∃ e, members add fuel first s bs = .error e := by
  cases fuel with
  | zero => exact ⟨_, rfl⟩
  | succ fuel =>
      obtain ⟨e, he⟩ := fails _ (follows_after spaced ms rest)
      rw [members, bind_of_ok hat.moreMembers]
      show ∃ e, (scanning readTextBody >>= fun name => add name s >>= _) _ = .error e
      exact ⟨e, by rw [bind_of_ok (scanning_name named _), bind_of_error he]⟩

private theorem members_of_unreadable (unreadable : Unreadable m)
    (hat : AtMembers first (m :: ms) rest bs) : ∃ e, members add fuel first s bs = .error e := by
  cases fuel with
  | zero => exact ⟨_, rfl⟩
  | succ fuel =>
      obtain ⟨e, he⟩ := scanning_unreadable unreadable _
      rw [members, bind_of_ok hat.moreMembers]
      exact ⟨e, bind_of_error he⟩

end Member

/-! ## All members -/

section Members

variable {Inv : List Member → σ → Prop}

/-- A member keeps up what holds of the members before it, or it is refused and no members that
follow could make up for it. -/
def Keeps (add : String → σ → Reader σ) (Inv : List Member → σ → Prop) (m : Member) : Prop :=
  ∀ pre s, Inv pre s → (∃ s', Inv (pre ++ [m]) s' ∧ Adds add m s s') ∨
    (∀ post s', ¬Inv (pre ++ m :: post) s') ∧ AddFails add m s

private theorem members_cases (spaced : ∀ m ∈ ms, m.Spaced)
    (names : ∀ m ∈ ms, m.Named ∨ Unreadable m) (keeps : ∀ m ∈ ms, Keeps add Inv m)
    (pre : List Member) (s : σ) (inv : Inv pre s) :
    (∃ s', Inv (pre ++ ms) s' ∧ ∀ fuel first rest bs, ms.length < fuel →
      AtMembers first ms rest bs → members add fuel first s bs = .ok (s', 0x7D :: rest)) ∨
    ((∀ m ∈ ms, m.Named) → ∀ s', ¬Inv (pre ++ ms) s') ∧
      ∀ fuel first rest bs, AtMembers first ms rest bs →
        ∃ e, members add fuel first s bs = .error e := by
  induction ms generalizing pre s with
  | nil =>
      rw [List.append_nil]
      refine Or.inl ⟨s, inv, fun fuel first rest bs hfuel hat => ?_⟩
      obtain ⟨fuel, rfl⟩ := Nat.exists_eq_succ_of_ne_zero (Nat.ne_of_gt hfuel)
      cases hat with
      | nil more => exact bind_of_ok more
  | cons m ms ih =>
      have hspaced := spaced m List.mem_cons_self
      have hnext := atMembers_next hspaced.after
        fun n hn => spaced n (List.mem_cons_of_mem _ hn)
      rcases names m List.mem_cons_self with named | unreadable
      · rcases keeps m List.mem_cons_self pre s inv with ⟨s', inv', adds⟩ | ⟨hnone, fails⟩
        · have hrest := ih (fun n hn => spaced n (List.mem_cons_of_mem _ hn))
            (fun n hn => names n (List.mem_cons_of_mem _ hn))
            (fun n hn => keeps n (List.mem_cons_of_mem _ hn)) (pre ++ [m]) s' inv'
          rw [← List.append_cons] at hrest
          refine hrest.imp ?_ ?_
          · rintro ⟨t, ht, hmembers⟩
            refine ⟨t, ht, fun fuel first rest bs hfuel hat => ?_⟩
            obtain ⟨fuel, rfl⟩ := Nat.exists_eq_succ_of_ne_zero (Nat.ne_zero_of_lt hfuel)
            rw [members_of_adds hspaced named adds hat]
            exact hmembers _ _ rest _ (Nat.lt_of_succ_lt_succ hfuel) (hnext rest)
          · rintro ⟨hnone, hfails⟩
            refine ⟨fun hnamed => hnone fun n hn => hnamed n (List.mem_cons_of_mem _ hn), ?_⟩
            intro fuel first rest bs hat
            cases fuel with
            | zero => exact ⟨_, rfl⟩
            | succ fuel =>
                rw [members_of_adds hspaced named adds hat]
                exact hfails fuel false rest _ (hnext rest)
        · exact Or.inr ⟨fun _ => hnone ms, fun fuel first rest bs =>
            members_of_addFails hspaced named fails⟩
      · refine Or.inr ⟨fun hnamed => ?_, fun fuel first rest bs => members_of_unreadable unreadable⟩
        obtain ⟨e, he⟩ := unreadable []
        rw [readTextBody_of_spells (hnamed m List.mem_cons_self)] at he
        cases he

/-- An object is gathered member by member to its end, or refused. -/
theorem object_cases (blank : Blank lead) (spaced : ∀ m ∈ ms, m.Spaced)
    (names : ∀ m ∈ ms, m.Named ∨ Unreadable m) (keeps : ∀ m ∈ ms, Keeps add Inv m)
    {start : σ} (inv : Inv [] start) :
    (∃ s, Inv ms s ∧ ∀ rest,
      object add start (lead ++ (separated (ms.map Member.bytes) ++ 0x7D :: rest)) =
        .ok (s, 0x7D :: rest)) ∨
    ((∀ m ∈ ms, m.Named) → ∀ s, ¬Inv ms s) ∧ ∀ rest, ∃ e,
      object add start (lead ++ (separated (ms.map Member.bytes) ++ 0x7D :: rest)) =
        .error e := by
  refine (members_cases spaced names keeps [] start inv).imp ?_ (And.imp_right ?_)
  · rintro ⟨s, hs, hmembers⟩
    refine ⟨s, hs, fun rest => hmembers _ true rest _ ?_ (atMembers_first blank spaced rest)⟩
    have hle := length_le_separated (ms.map Member.bytes) ?_
    · rw [List.length_map] at hle
      simp only [List.length_append]
      omega
    · simp [Member.bytes, quote]
  · exact fun hfails rest => hfails _ true rest _ (atMembers_first blank spaced rest)

/-- The names of members can be put right without changing a byte. -/
theorem exists_names (lead : List UInt8) (spaced : ∀ m ∈ ms, m.Spaced)
    (labels : ∀ m ∈ ms, IsTextBody m.label) (values : ∀ m ∈ ms, IsValue m.value) :
    ∃ ns, objectBytes lead ns = objectBytes lead ms ∧ (∀ n ∈ ns, n.Spaced) ∧
      (∀ n ∈ ns, n.Named ∨ Unreadable n) ∧ ∀ n ∈ ns, IsValue n.value := by
  have hname : ∀ m : Member, ∃ name : String, IsTextBody m.label →
      Member.Named { m with name := name } ∨ Unreadable { m with name := name } := by
    intro m
    by_cases hlabel : IsTextBody m.label
    · rcases spelled_or_unreadable hlabel with ⟨cs, hcs⟩ | hfails
      · exact ⟨String.ofList cs, fun _ => Or.inl (by rwa [Member.Named, String.toList_ofList])⟩
      · exact ⟨"", fun _ => Or.inr hfails⟩
    · exact ⟨"", fun h => absurd h hlabel⟩
  choose name hname using hname
  refine ⟨ms.map fun m => { m with name := name m }, ?_, ?_, ?_, ?_⟩
  · rw [objectBytes, objectBytes, List.map_map]
    rfl
  · simpa using fun m hm => (⟨(spaced m hm).toSpaced, (spaced m hm).lead, (spaced m hm).gap⟩ :
      Member.Spaced { m with name := name m })
  · simpa using fun m hm => hname m (labels m hm)
  · simpa using values

end Members

/-! ## Choices -/

section Choices

variable {α : Type} {ofName : String → α} {v : List UInt8} {a : α} {name : String}

private theorem unit_cases (value : IsValue v) :
    v = nullBytes ∧ Reads unit v () ∨ v ≠ nullBytes ∧ Refuses unit v := by
  obtain ⟨b, heads⟩ := value.exists_heads
  by_cases hb : b = 0x6E
  · obtain rfl := heads.null hb
    refine Or.inl ⟨rfl, fun ws rest blank _ => ?_⟩
    have hspace : isSpace 0x6E = false := by decide
    rw [unit, peek_bind_append blank, nullBytes, List.cons_append, peek_bind_cons hspace]
    exact passing_readWord nullTail rest
  · refine Or.inr ⟨heads.ne_null hb, refuses_of_mismatch "unit" heads ?_⟩
    split
    · rename_i h
      exact absurd (Option.some.inj h) hb
    · contradiction
    · rfl

/-- A value names a choice: it is the name, or an object with the name as its one member and no
content. -/
inductive Names : List UInt8 → String → Prop where
  | text {name : String} {body : List UInt8} (spells : Spells body name.toList) :
      Names (quote body) name
  | object {o : ObjectText} {m : Member} (single : o.members = [m]) (empty : m.value = nullBytes) :
      Names o.bytes m.name

private theorem choice_text (heads : Heads 0x22 v) (blank : Blank ws) :
    choice ofName (ws ++ (v ++ rest)) = (do return ofName (← text)) (v ++ rest) :=
  peek_bind_heads blank heads rfl

private def inBraces (ofName : String → α) : Reader α := do
  match ← peek with
  | none => reject .endInObject
  | some 0x7D => reject .expectedValue
  | some 0x22 =>
    advance
    let name ← scanning readTextBody
    colon
    unit
    match ← peek with
    | none => reject .endInObject
    | some 0x7D => advance; return ofName name
    | some _ => reject .expectedValue
  | some _ => reject .keyNotText

private theorem choice_object (blank : Blank ws) (rest : List UInt8) :
    choice ofName (ws ++ (objectBytes lead ms ++ rest)) =
      inBraces ofName (lead ++ (separated (ms.map Member.bytes) ++ 0x7D :: rest)) := by
  have hspace : isSpace 0x7B = false := by decide
  rw [choice, peek_bind_append blank, objectBytes_append, peek_bind_cons hspace]
  rfl

private theorem inBraces_nil (blank : Blank lead) (rest : List UInt8) :
    ∃ e, inBraces ofName (lead ++ 0x7D :: rest) = .error e := by
  have hspace : isSpace 0x7D = false := by decide
  rw [inBraces, peek_bind_append blank, peek_bind_cons hspace]
  exact ⟨_, rfl⟩

private theorem inBraces_cons (blank : Blank lead) (spaced : m.Spaced) (rest : List UInt8) :
    inBraces ofName (lead ++ (separated ((m :: ms).map Member.bytes) ++ 0x7D :: rest)) =
      (scanning readTextBody >>= fun name => colon >>= fun _ => unit >>= fun _ => peek >>=
        fun
        | none => reject .endInObject
        | some 0x7D => advance >>= fun _ => pure (ofName name)
        | some _ => reject .expectedValue)
        (m.label ++ 0x22 :: (m.gap ++ (0x3A ::
          (m.before ++ (m.value ++ (m.after ++ objectTail ms rest)))))) := by
  have hspace : isSpace 0x22 = false := by decide
  have hbytes : lead ++ (separated ((m :: ms).map Member.bytes) ++ 0x7D :: rest) =
      (lead ++ m.lead) ++ 0x22 :: (m.label ++ 0x22 :: (m.gap ++ (0x3A ::
        (m.before ++ (m.value ++ (m.after ++ objectTail ms rest)))))) := by
    simp [separated, Member.bytes, Part.bytes, quote, objectTail]
  rw [hbytes, inBraces, peek_bind_append (blank.append spaced.lead), peek_bind_cons hspace]
  rfl

theorem reads_choice_object {o : ObjectText} (single : o.members = [m])
    (empty : m.value = nullBytes) : Reads (choice ofName) o.bytes (ofName m.name) := by
  intro ws rest blank _
  have hm : m ∈ o.members := single ▸ List.mem_singleton_self m
  have hspaced := o.spaced m hm
  have hend : isSpace 0x7D = false := by decide
  have hunit := (unit_cases (o.values m hm)).resolve_right fun h => h.1 empty
  have hread := hunit.2 _ _ hspaced.before (follows_after hspaced [] rest)
  rw [ObjectText.bytes, choice_object blank, single, inBraces_cons o.blank hspaced,
    bind_of_ok (scanning_name (o.named m hm) _), bind_of_ok (colon_append hspaced.gap),
    bind_of_ok hread, peek_bind_append hspaced.after]
  show (peek >>= _) (0x7D :: rest) = _
  rw [peek_bind_cons hend]
  rfl

/-- An object with another content than one member without content is no choice. -/
private theorem refuses_choice_object (blank : Blank lead) (spaced : ∀ n ∈ ms, n.Spaced)
    (names : ∀ n ∈ ms, n.Named ∨ Unreadable n) (values : ∀ n ∈ ms, IsValue n.value)
    (other : ∀ n, ms = [n] → n.Named → n.value ≠ nullBytes) :
    Refuses (choice ofName) (objectBytes lead ms) := by
  intro ws rest blank' _
  rw [choice_object blank']
  cases ms with
  | nil => exact inBraces_nil blank rest
  | cons n ns =>
      have hspaced := spaced n List.mem_cons_self
      rw [inBraces_cons blank hspaced]
      rcases names n List.mem_cons_self with named | unreadable
      · rw [bind_of_ok (scanning_name named _), bind_of_ok (colon_append hspaced.gap)]
        have hfollows := follows_after hspaced ns rest
        rcases unit_cases (values n List.mem_cons_self) with ⟨hnull, hreads⟩ | ⟨_, hrefuses⟩
        · rw [bind_of_ok (hreads _ _ hspaced.before hfollows), peek_bind_append hspaced.after]
          cases ns with
          | nil => exact absurd hnull (other n rfl named)
          | cons n' ns =>
              have hcomma : isSpace 0x2C = false := by decide
              show ∃ e, (peek >>= _) (0x2C :: _) = .error e
              rw [peek_bind_cons hcomma]
              exact ⟨_, rfl⟩
        · obtain ⟨e, he⟩ := hrefuses _ _ hspaced.before hfollows
          exact ⟨e, bind_of_error he⟩
      · obtain ⟨e, he⟩ := scanning_unreadable unreadable _
        exact ⟨e, bind_of_error he⟩

private theorem choice_cases (ofName : String → α) (value : IsValue v) :
    (∃ a, (∃ name, Names v name ∧ ofName name = a) ∧ Reads (choice ofName) v a) ∨
      Refuses (choice ofName) v := by
  obtain ⟨b, heads⟩ := value.exists_heads
  by_cases htext : b = 0x22
  · subst htext
    refine (textFor_decides "a string" v value).imp ?_ ?_
    · rintro ⟨name, hreads⟩
      obtain ⟨body, hbody, hspells⟩ := (reads_textFor_iff value).mp hreads
      refine ⟨_, ⟨name, hbody ▸ .text hspells, rfl⟩, fun ws rest blank follows => ?_⟩
      rw [choice_text heads blank]
      exact hreads.map ofName [] rest blank_nil follows
    · intro hrefuses ws rest blank follows
      rw [choice_text heads blank]
      exact hrefuses.bind _ [] rest blank_nil follows
  by_cases hobject : b = 0x7B
  · obtain ⟨lead, ms, blank, spaced, labels, values, rfl⟩ := heads.object hobject
    obtain ⟨ns, hsame, spaced, names, values⟩ := exists_names lead spaced labels values
    rw [← hsame]
    by_cases hone : ∃ n, ns = [n] ∧ n.Named ∧ n.value = nullBytes
    · obtain ⟨n, rfl, named, empty⟩ := hone
      have hnames : ∀ m ∈ [n], m.Named := List.forall_mem_singleton.mpr named
      let o : ObjectText := ⟨lead, [n], blank, spaced, hnames, values⟩
      exact Or.inl ⟨_, ⟨_, .object (o := o) rfl empty, rfl⟩, reads_choice_object (o := o) rfl empty⟩
    · refine Or.inr (refuses_choice_object blank spaced names values fun n hn named empty => ?_)
      exact hone ⟨n, hn, named, empty⟩
  · refine Or.inr fun ws rest blank _ => ⟨⟨[], .flaw .expectedValue⟩, ?_⟩
    refine peek_bind_heads (g := reject .expectedValue) blank heads ?_
    split
    · contradiction
    · rename_i h
      exact absurd (Option.some.inj h) htext
    · rename_i h
      exact absurd (Option.some.inj h) hobject
    · rfl

theorem choice_decides (ofName : String → α) : Decides (choice ofName) :=
  fun _ value => (choice_cases ofName value).imp_left fun ⟨a, _, ha⟩ => ⟨a, ha⟩

/-- A choice is read by its name. -/
theorem reads_choice_iff (value : IsValue v) :
    Reads (choice ofName) v a ↔ ∃ name, Names v name ∧ ofName name = a := by
  refine ⟨fun h => h.of_cases (choice_cases ofName value), ?_⟩
  rintro ⟨name, hnames, rfl⟩
  cases hnames with
  | @text _ body spells =>
      have hvalue : IsValue (quote body) := .text spells.isTextBody
      obtain ⟨b, heads⟩ := hvalue.exists_heads
      obtain ⟨tail, hcons⟩ := heads.cons
      obtain rfl : 0x22 = b := (List.cons.inj hcons).1
      have hreads : Reads text (quote body) name :=
        (reads_textFor_iff hvalue).mpr ⟨body, rfl, spells⟩
      intro ws rest blank follows
      rw [choice_text heads blank]
      exact hreads.map ofName [] rest blank_nil follows
  | object single empty => exact reads_choice_object single empty

end Choices

end Reader

end Matchmaking.Json
