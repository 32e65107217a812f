import Matchmaking.Json.Record
import Matchmaking.Proofs.Json.Object

/-!
# Reading records

A record is taken from an object just if each field is told once, or not at all where it has a value
to fall back on, whatever other members there are and in whatever order.
-/

namespace Matchmaking.Json

def membersNamed (name : String) (ms : List Member) : List Member :=
  ms.filter fun m => m.name = name

section MembersNamed

variable {name : String} {pre post ms : List Member} {m : Member}

theorem membersNamed_append :
    membersNamed name (pre ++ post) = membersNamed name pre ++ membersNamed name post :=
  List.filter_append ..

theorem membersNamed_cons_self (h : m.name = name) :
    membersNamed name (m :: ms) = m :: membersNamed name ms :=
  List.filter_cons_of_pos (by simpa using h)

theorem membersNamed_cons_of_ne (h : m.name ≠ name) :
    membersNamed name (m :: ms) = membersNamed name ms :=
  List.filter_cons_of_neg (by simpa using h)

end MembersNamed

namespace Field

variable {α : Type} {field : Field α} {ms : List Member} {a : α}

/-- What has been read of a field among some members. -/
def Filled (field : Field α) (ms : List Member) : Option α → Prop
  | none => membersNamed field.name ms = []
  | some a => ∃ m, membersNamed field.name ms = [m] ∧ field.read.Reads m.value a

/-- The value that members give to a field: the one that a single member tells, or what the field
falls back on. -/
def Assigns (field : Field α) (ms : List Member) (a : α) : Prop :=
  (∃ m, membersNamed field.name ms = [m] ∧ field.read.Reads m.value a) ∨
    membersNamed field.name ms = [] ∧ field.fallback = some a

theorem Filled.append_of_ne {pre : List Member} {m : Member} {slot : Option α}
    (h : field.Filled pre slot) (hname : m.name ≠ field.name) : field.Filled (pre ++ [m]) slot := by
  have hsame : membersNamed field.name (pre ++ [m]) = membersNamed field.name pre := by
    rw [membersNamed_append, membersNamed_cons_of_ne hname]
    exact List.append_nil _
  cases slot with
  | none => exact hsame.trans h
  | some a =>
      obtain ⟨n, hn, ha⟩ := h
      exact ⟨n, hsame.trans hn, ha⟩

/-- If a member tells a field, it is the only one, and its value is taken. -/
theorem Filled.reads_of_cons {m : Member} {others : List Member} {slot : Option α}
    (h : field.Filled ms slot) (hms : membersNamed field.name ms = m :: others) :
    others = [] ∧ ∃ a, field.read.Reads m.value a := by
  cases slot with
  | none =>
      rw [show membersNamed field.name ms = [] from h] at hms
      cases hms
  | some a =>
      obtain ⟨n, hn, ha⟩ := h
      rw [hn] at hms
      cases hms
      exact ⟨rfl, a, ha⟩

theorem Filled.eq {slot slot' : Option α} (h : field.Filled ms slot) (h' : field.Filled ms slot') :
    slot = slot' := by
  cases slot with
  | none =>
      cases slot' with
      | none => rfl
      | some b =>
          obtain ⟨n, hn, _⟩ := h'
          rw [show membersNamed field.name ms = [] from h] at hn
          cases hn
  | some a =>
      obtain ⟨m, hm, ha⟩ := h
      cases slot' with
      | none =>
          rw [show membersNamed field.name ms = [] from h'] at hm
          cases hm
      | some b =>
          obtain ⟨n, hn, hb⟩ := h'
          rw [hm] at hn
          cases hn
          rw [ha.eq hb]

theorem assigns_iff : field.Assigns ms a ↔ ∃ slot, field.Filled ms slot ∧
    (slot <|> field.fallback) = some a := by
  constructor
  · rintro (h | ⟨hnone, hfallback⟩)
    · exact ⟨some a, h, rfl⟩
    · exact ⟨none, hnone, hfallback⟩
  · rintro ⟨slot, hslot, ha⟩
    cases slot with
    | none => exact Or.inr ⟨hslot, ha⟩
    | some b =>
        cases ha
        exact Or.inl hslot

end Field

namespace Fields

open Reader

def names : {αs : List Type} → Fields αs → List String
  | [], .nil => []
  | _ :: _, .cons field rest => field.name :: rest.names

def Decides : {αs : List Type} → Fields αs → Prop
  | [], .nil => True
  | _ :: _, .cons field rest => field.read.Decides ∧ rest.Decides

def Filled : {αs : List Type} → Fields αs → List Member → Slots αs → Prop
  | [], .nil, _, () => True
  | _ :: _, .cons field rest, ms, (slot, slots) => field.Filled ms slot ∧ rest.Filled ms slots

/-- The values that members give to the fields. -/
def Assigns : {αs : List Type} → Fields αs → List Member → Values αs → Prop
  | [], .nil, _, () => True
  | _ :: _, .cons field rest, ms, (a, as) => field.Assigns ms a ∧ rest.Assigns ms as

section Members

variable {αs : List Type} {ms pre : List Member} {m : Member}

theorem filled_vacant (fields : Fields αs) : fields.Filled [] fields.vacant := by
  induction fields with
  | nil => exact trivial
  | cons field rest ih => exact ⟨rfl, ih⟩

/-- A member of another name changes nothing. -/
theorem filled_append_of_notMem {fields : Fields αs} {slots : Slots αs}
    (h : fields.Filled pre slots) (other : m.name ∉ fields.names) :
    fields.Filled (pre ++ [m]) slots := by
  induction fields with
  | nil => exact trivial
  | cons field rest ih =>
      simp only [names, List.mem_cons, not_or] at other
      exact ⟨h.1.append_of_ne other.1, ih h.2 other.2⟩

theorem reads_skip {v : List UInt8} (value : IsValue v) : Reads Reader.skip v () := by
  intro ws rest blank follows
  simp only [Reader.skip, passing, scanning, skipValue_append value blank follows, Except.map]

/-- The first field has the name of the member. -/
theorem add_of_eq {α : Type} {field : Field α} {others : Fields αs} {slots : Slots αs}
    (hname : m.name = field.name) (slot : Option α) :
    (cons field others).add m.name (slot, slots) =
      (do
        if slot.isSome then Reader.fail (.duplicateField m.name)
        colon
        let a ← within (.member m.name) field.read
        return (some a, slots)) := by
  rw [add, if_pos hname.symm]

theorem add_of_ne {α : Type} {field : Field α} {others : Fields αs} {slots : Slots αs}
    (hname : m.name ≠ field.name) (slot : Option α) :
    (cons field others).add m.name (slot, slots) =
      (do return (slot, ← others.add m.name slots)) := by
  rw [add, if_neg (Ne.symm hname)]

section Add

variable {α : Type} {field : Field α} {others : Fields αs} {slots : Slots αs}

/-- A second member of a name is refused before its value. -/
private theorem addFails_of_filled (hname : m.name = field.name) (b : α) :
    AddFails (cons field others).add m (some b, slots) := by
  intro rest _
  rw [add_of_eq hname]
  exact ⟨_, rfl⟩

theorem adds_of_vacant (hname : m.name = field.name) (spaced : m.Spaced) {a : α}
    (reads : field.read.Reads m.value a) :
    Adds (cons field others).add m (none, slots) (some a, slots) := by
  intro rest follows
  rw [add_of_eq hname]
  show (colon >>= fun _ => within _ field.read >>= _) _ = _
  rw [bind_of_ok (colon_append spaced.gap),
    bind_of_ok (within_of_ok _ (reads _ _ spaced.before follows))]
  rfl

private theorem addFails_of_refuses (hname : m.name = field.name) (spaced : m.Spaced)
    (refuses : field.read.Refuses m.value) :
    AddFails (cons field others).add m (none, slots) := by
  intro rest follows
  obtain ⟨e, he⟩ := refuses _ _ spaced.before follows
  rw [add_of_eq hname]
  show ∃ e, (colon >>= fun _ => within _ field.read >>= _) _ = .error e
  rw [bind_of_ok (colon_append spaced.gap)]
  exact ⟨_, bind_of_error (within_of_error _ he)⟩

/-- The field of a member's name is filled by it, unless it is filled already or does not take the
value. -/
private theorem add_keeps_self (decides : field.read.Decides) (hname : m.name = field.name)
    (other : field.name ∉ others.names) (spaced : m.Spaced) (value : IsValue m.value) :
    Keeps (cons field others).add (cons field others).Filled m := by
  rintro pre ⟨slot, slots⟩ ⟨hslot, hslots⟩
  have hself : ∀ post, membersNamed field.name (pre ++ m :: post) =
      membersNamed field.name pre ++ m :: membersNamed field.name post := by
    intro post
    rw [membersNamed_append, membersNamed_cons_self hname]
  cases slot with
  | some b =>
      obtain ⟨n, hn, _⟩ := hslot
      refine Or.inr ⟨fun post filled hboth => ?_, addFails_of_filled hname b⟩
      have htwo := hself post
      rw [hn, List.singleton_append] at htwo
      cases (hboth.1.reads_of_cons htwo).1
  | none =>
      have hfirst : ∀ post, membersNamed field.name (pre ++ m :: post) =
          m :: membersNamed field.name post := by
        intro post
        rw [hself, show membersNamed field.name pre = [] from hslot, List.nil_append]
      rcases decides _ value with ⟨a, ha⟩ | hrefuses
      · refine Or.inl ⟨(some a, slots), ⟨⟨m, hfirst [], ha⟩, ?_⟩, adds_of_vacant hname spaced ha⟩
        exact filled_append_of_notMem hslots (hname ▸ other)
      · refine Or.inr ⟨fun post filled hboth => ?_, addFails_of_refuses hname spaced hrefuses⟩
        obtain ⟨_, a, ha⟩ := hboth.1.reads_of_cons (hfirst post)
        exact hrefuses.not_reads ha

private theorem add_keeps_of_ne (hname : m.name ≠ field.name)
    (keeps : Keeps others.add others.Filled m) :
    Keeps (cons field others).add (cons field others).Filled m := by
  rintro pre ⟨slot, slots⟩ ⟨hslot, hslots⟩
  refine (keeps pre slots hslots).imp ?_ ?_
  · rintro ⟨slots', hslots', adds⟩
    refine ⟨(slot, slots'), ⟨hslot.append_of_ne hname, hslots'⟩, fun rest follows => ?_⟩
    rw [add_of_ne hname, bind_of_ok (adds rest follows)]
    rfl
  · rintro ⟨hnone, fails⟩
    refine ⟨fun post filled hboth => hnone post filled.2 hboth.2, fun rest follows => ?_⟩
    obtain ⟨e, he⟩ := fails rest follows
    exact ⟨e, by rw [add_of_ne hname, bind_of_error he]⟩

end Add

/-- Each member fills the field of its name or is passed over, unless its field is filled already or
does not take its value. -/
theorem add_keeps {fields : Fields αs} (decides : fields.Decides) (distinct : fields.names.Nodup)
    (spaced : m.Spaced) (value : IsValue m.value) : Keeps fields.add fields.Filled m := by
  induction fields with
  | nil =>
      intro pre slots _
      refine Or.inl ⟨(), trivial, fun rest follows => ?_⟩
      rw [add, bind_of_ok (colon_append spaced.gap)]
      exact bind_of_ok (within_of_ok _ (reads_skip value _ _ spaced.before follows))
  | cons field others ih =>
      rw [names, List.nodup_cons] at distinct
      by_cases hname : m.name = field.name
      · exact add_keeps_self decides.1 hname distinct.1 spaced value
      · exact add_keeps_of_ne hname (ih decides.2 distinct.2)

theorem Filled.eq {fields : Fields αs} {slots slots' : Slots αs} (h : fields.Filled ms slots)
    (h' : fields.Filled ms slots') : slots = slots' := by
  induction fields with
  | nil => rfl
  | cons field rest ih => exact Prod.ext (h.1.eq h'.1) (ih h.2 h'.2)

/-- The values of the fields are those that the members give to them. -/
theorem assigns_iff {fields : Fields αs} {as : Values αs} :
    fields.Assigns ms as ↔ ∃ slots, fields.Filled ms slots ∧ fields.complete slots = .ok as := by
  induction fields with
  | nil => exact ⟨fun _ => ⟨(), trivial, rfl⟩, fun _ => trivial⟩
  | cons field rest ih =>
      obtain ⟨a, as⟩ := as
      constructor
      · rintro ⟨ha, has⟩
        obtain ⟨slot, hslot, hvalue⟩ := Field.assigns_iff.mp ha
        obtain ⟨slots, hslots, hvalues⟩ := ih.mp has
        exact ⟨(slot, slots), ⟨hslot, hslots⟩, by simp only [complete, hvalue, hvalues]⟩
      · rintro ⟨⟨slot, slots⟩, ⟨hslot, hslots⟩, hcomplete⟩
        rw [complete] at hcomplete
        split at hcomplete
        · cases hcomplete
        · rename_i b hvalue
          split at hcomplete
          · cases hcomplete
          · rename_i bs hvalues
            cases hcomplete
            exact ⟨Field.assigns_iff.mpr ⟨slot, hslot, hvalue⟩, ih.mpr ⟨slots, hslots, hvalues⟩⟩

theorem Assigns.eq {fields : Fields αs} {as as' : Values αs} (h : fields.Assigns ms as)
    (h' : fields.Assigns ms as') : as = as' := by
  obtain ⟨slots, filled, hcomplete⟩ := assigns_iff.mp h
  obtain ⟨slots', filled', hcomplete'⟩ := assigns_iff.mp h'
  rw [filled.eq filled', hcomplete'] at hcomplete
  cases hcomplete
  rfl

end Members

/-! ## Records written as lists -/

section Lists

variable {αs : List Type} {parts : List Part}

/-- Fields are read, and then the end of the list. -/
private def Closes (read : Reader (Values αs)) (bs : List UInt8) (as : Values αs)
    (rest : List UInt8) : Prop :=
  ∃ left, read bs = .ok (as, left) ∧ endList left = .ok ((), rest)

/-- Fields cannot be read, or the list goes on after them. -/
private def StaysOpen (read : Reader (Values αs)) (bs : List UInt8) : Prop :=
  (∃ e, read bs = .error e) ∨ ∃ as left e, read bs = .ok (as, left) ∧ endList left = .error e

/-- The fields are read from the parts of a list to its end, or they are not, whatever follows the
list. -/
private def Settled (record : String) (size : Nat) (fields : Fields αs) (parts : List Part) :
    Prop :=
  (∃ as, ∀ index rest bs, AtParts (index = 0) parts rest bs →
    Closes (inOrder record size index fields) bs as rest) ∨
  ∀ index rest bs, AtParts (index = 0) parts rest bs →
    StaysOpen (inOrder record size index fields) bs

variable {α : Type} {read : Reader (Values αs)} {a : α} {as : Values αs} {bs rest : List UInt8}
  {first : Reader (Values (α :: αs))} {bs' : List UInt8}

private theorem Closes.cons (h : Closes read bs as rest)
    (hfirst : first bs' = (do return (a, ← read)) bs) : Closes first bs' (a, as) rest := by
  obtain ⟨left, hleft, hend⟩ := h
  exact ⟨left, hfirst.trans (bind_of_ok hleft), hend⟩

private theorem StaysOpen.cons (h : StaysOpen read bs)
    (hfirst : first bs' = (do return (a, ← read)) bs) : StaysOpen first bs' := by
  rcases h with ⟨e, he⟩ | ⟨as, left, e, hleft, hend⟩
  · exact Or.inl ⟨e, hfirst.trans (bind_of_error he)⟩
  · exact Or.inr ⟨(a, as), left, e, hfirst.trans (bind_of_ok hleft), hend⟩

variable {record : String} {size : Nat} {field : Field α} {others : Fields αs}
  {left : List Part}

/-- A first field has got its value, and the others are read from what is left. -/
private theorem Settled.cons (h : Settled record size others left) {start : List UInt8 → List UInt8}
    (next : ∀ rest, AtParts false left rest (start rest))
    (hfirst : ∀ index rest bs, AtParts (index = 0) parts rest bs →
      inOrder record size index (.cons field others) bs =
        (do return (a, ← inOrder record size (index + 1) others)) (start rest)) :
    Settled record size (.cons field others) parts := by
  refine h.imp ?_ ?_
  · rintro ⟨as, has⟩
    exact ⟨(a, as), fun index rest bs hat =>
      (has (index + 1) rest _ (next rest)).cons (hfirst index rest bs hat)⟩
  · exact fun hopen index rest bs hat =>
      (hopen (index + 1) rest _ (next rest)).cons (hfirst index rest bs hat)

/-- Whatever is left when the fields are done is refused. -/
private theorem settled_nil (record : String) (size : Nat) (parts : List Part) :
    Settled record size .nil parts := by
  cases parts with
  | nil =>
      refine Or.inl ⟨(), fun index rest bs hat => ?_⟩
      cases hat with
      | nil _ finish => exact ⟨bs, rfl, finish⟩
  | cons p parts =>
      refine Or.inr fun index rest bs hat => Or.inr ?_
      cases hat with
      | cons _ finish =>
          obtain ⟨e, he⟩ := finish
          exact ⟨(), bs, e, rfl, he⟩

/-- Past the last part a field has what it falls back on. -/
private theorem settled_past (h : Settled record size others []) :
    Settled record size (.cons field others) [] := by
  cases hfallback : field.fallback with
  | none =>
      refine Or.inr fun index rest bs hat => Or.inl ?_
      cases hat with
      | nil more =>
          rw [inOrder, bind_of_ok more]
          simp only [hfallback]
          exact ⟨_, rfl⟩
  | some a =>
      refine h.cons (a := a) (fun rest => atParts_nil blank_nil false rest) ?_
      intro index rest bs hat
      cases hat with
      | nil more =>
          rw [inOrder, bind_of_ok more]
          simp only [hfallback]
          rfl

/-- A field takes the value of the next part or refuses it. -/
private theorem settled_part {p : Part} (decides : field.read.Decides)
    (spaced : ∀ q ∈ p :: parts, q.Spaced) (values : ∀ q ∈ p :: parts, IsValue q.value)
    (h : Settled record size others parts) :
    Settled record size (.cons field others) (p :: parts) := by
  have hspaced := spaced p List.mem_cons_self
  have hfollows := fun rest => hspaced.after.follows (follows_listTail parts rest)
  rcases decides _ (values p List.mem_cons_self) with ⟨a, ha⟩ | hrefuses
  · refine h.cons (a := a) (atParts_next hspaced.after
      (fun q hq => spaced q (List.mem_cons_of_mem p hq))
      fun q hq => values q (List.mem_cons_of_mem p hq)) ?_
    intro index rest bs hat
    rw [inOrder, bind_of_ok hat.moreItems]
    exact bind_of_ok (within_of_ok _ (ha [] _ blank_nil (hfollows rest)))
  · refine Or.inr fun index rest bs hat => Or.inl ?_
    obtain ⟨e, he⟩ := hrefuses [] _ blank_nil (hfollows rest)
    rw [inOrder, bind_of_ok hat.moreItems]
    exact ⟨_, bind_of_error (within_of_error _ he)⟩

private theorem inOrder_cases {αs : List Type} (record : String) (size : Nat) {fields : Fields αs}
    (decides : fields.Decides) (spaced : ∀ p ∈ parts, p.Spaced)
    (values : ∀ p ∈ parts, IsValue p.value) : Settled record size fields parts := by
  induction fields generalizing parts with
  | nil => exact settled_nil record size parts
  | cons field others ih =>
      cases parts with
      | nil => exact settled_past (ih decides.2 spaced values)
      | cons p parts =>
          exact settled_part decides.1 spaced values
            (ih decides.2 (fun q hq => spaced q (List.mem_cons_of_mem p hq))
              fun q hq => values q (List.mem_cons_of_mem p hq))

theorem inOrder_decides (record : String) (size : Nat) {fields : Fields αs}
    (decides : fields.Decides) (l : ListText) :
    (∃ as, ∀ rest, (do let as ← inOrder record size 0 fields; endList; return as)
      (l.lead ++ (separated (l.parts.map Part.bytes) ++ 0x5D :: rest)) = .ok (as, rest)) ∨
    ∀ rest, ∃ e, (do let as ← inOrder record size 0 fields; endList; return as)
      (l.lead ++ (separated (l.parts.map Part.bytes) ++ 0x5D :: rest)) = .error e := by
  have hat := atParts_first l.blank l.spaced l.values
  refine (inOrder_cases record size decides l.spaced l.values).imp ?_ ?_
  · rintro ⟨as, has⟩
    refine ⟨as, fun rest => ?_⟩
    obtain ⟨left, hleft, hend⟩ := has 0 rest _ (hat rest)
    rw [bind_of_ok hleft, bind_of_ok hend]
    rfl
  · intro hopen rest
    rcases hopen 0 rest _ (hat rest) with ⟨e, he⟩ | ⟨as, left, e, hleft, hend⟩
    · exact ⟨e, bind_of_error he⟩
    · exact ⟨e, by rw [bind_of_ok hleft, bind_of_error hend]⟩

end Lists

end Fields

/-! ## Records -/

namespace Reader

variable {αs : List Type} {fields : Fields αs} {name : String} {as : Values αs}
  {lead v : List UInt8} {ms : List Member}

theorem record_object {ws : List UInt8} (blank : Blank ws) (rest : List UInt8) :
    record name fields (ws ++ (objectBytes lead ms ++ rest)) =
      (object fields.add fields.vacant >>= fun slots =>
        match fields.complete slots with
        | .error fault => fail fault
        | .ok values => advance >>= fun _ => pure values)
        (lead ++ (separated (ms.map Member.bytes) ++ 0x7D :: rest)) := by
  have hspace : isSpace 0x7B = false := by decide
  rw [record, peek_bind_append blank, objectBytes_append, peek_bind_cons hspace]
  rfl

private theorem record_list {ws : List UInt8} (l : ListText) (blank : Blank ws)
    (rest : List UInt8) :
    record name fields (ws ++ (l.bytes ++ rest)) =
      (do let as ← fields.inOrder name fields.size 0; endList; return as)
        (l.lead ++ (separated (l.parts.map Part.bytes) ++ 0x5D :: rest)) := by
  have hspace : isSpace 0x5B = false := by decide
  rw [record, peek_bind_append blank, ListText.bytes, listBytes_append, peek_bind_cons hspace]
  rfl

private theorem record_cases (name : String) (decides : fields.Decides)
    (distinct : fields.names.Nodup) (blank : Blank lead) (spaced : ∀ m ∈ ms, m.Spaced)
    (names : ∀ m ∈ ms, m.Named ∨ Unreadable m) (values : ∀ m ∈ ms, IsValue m.value) :
    (∃ as, fields.Assigns ms as ∧ ∀ ws rest, Blank ws →
      record name fields (ws ++ (objectBytes lead ms ++ rest)) = .ok (as, rest)) ∨
    ((∀ m ∈ ms, m.Named) → ∀ as, ¬fields.Assigns ms as) ∧ ∀ ws rest, Blank ws →
      ∃ e, record name fields (ws ++ (objectBytes lead ms ++ rest)) = .error e := by
  rcases object_cases blank spaced names
    (fun m hm => Fields.add_keeps decides distinct (spaced m hm) (values m hm))
    fields.filled_vacant with ⟨slots, filled, hobject⟩ | ⟨hnone, hfails⟩
  · cases hcomplete : fields.complete slots with
    | ok as =>
        refine Or.inl ⟨as, Fields.assigns_iff.mpr ⟨slots, filled, hcomplete⟩, ?_⟩
        intro ws rest blank
        rw [record_object blank, bind_of_ok (hobject rest)]
        simp only [hcomplete]
        rfl
    | error fault =>
        refine Or.inr ⟨fun _ as has => ?_, fun ws rest blank => ⟨⟨[], fault⟩, ?_⟩⟩
        · obtain ⟨slots', filled', hcomplete'⟩ := Fields.assigns_iff.mp has
          rw [filled'.eq filled, hcomplete] at hcomplete'
          cases hcomplete'
        · rw [record_object blank, bind_of_ok (hobject rest)]
          simp only [hcomplete]
          rfl
  · refine Or.inr ⟨fun named as has => ?_, fun ws rest blank => ?_⟩
    · obtain ⟨slots, filled, _⟩ := Fields.assigns_iff.mp has
      exact hnone named slots filled
    · obtain ⟨e, he⟩ := hfails rest
      exact ⟨e, by rw [record_object blank, bind_of_error he]⟩

section ObjectText

variable {o : ObjectText} {ws : List UInt8}

/-- An object has an end of its own, so that it does not matter what follows it. -/
theorem record_of_assigns (decides : fields.Decides) (distinct : fields.names.Nodup)
    (h : fields.Assigns o.members as) (blank : Blank ws) (rest : List UInt8) :
    record name fields (ws ++ (o.bytes ++ rest)) = .ok (as, rest) := by
  rcases record_cases name decides distinct o.blank o.spaced
    (fun m hm => Or.inl (o.named m hm)) o.values with ⟨bs, hbs, hreads⟩ | ⟨hnone, _⟩
  · rw [h.eq hbs]
    exact hreads ws rest blank
  · exact absurd h (hnone o.named as)

theorem record_of_not_assigns (name : String) (decides : fields.Decides)
    (distinct : fields.names.Nodup) (h : ∀ as, ¬fields.Assigns o.members as) (blank : Blank ws)
    (rest : List UInt8) :
    ∃ e, record name fields (ws ++ (o.bytes ++ rest)) = .error e := by
  rcases record_cases name decides distinct o.blank o.spaced
    (fun m hm => Or.inl (o.named m hm)) o.values with ⟨bs, hbs, _⟩ | ⟨_, hrefuses⟩
  · exact absurd hbs (h bs)
  · exact hrefuses ws rest blank

/-- A record is read from an object as the values that the members give to its fields. -/
theorem reads_record_iff (decides : fields.Decides) (distinct : fields.names.Nodup) :
    Reads (record name fields) o.bytes as ↔ fields.Assigns o.members as := by
  constructor
  · intro h
    by_contra hnone
    have hother : ∀ bs, ¬fields.Assigns o.members bs := by
      intro bs hbs
      have hreads : Reads (record name fields) o.bytes bs := fun ws rest blank _ =>
        record_of_assigns decides distinct hbs blank rest
      exact hnone (h.eq hreads ▸ hbs)
    obtain ⟨e, he⟩ := record_of_not_assigns name decides distinct hother blank_nil []
    rw [h [] [] blank_nil follows_nil] at he
    cases he
  · intro h ws rest blank _
    exact record_of_assigns decides distinct h blank rest

end ObjectText

theorem record_decides (decides : fields.Decides) (distinct : fields.names.Nodup) :
    Decides (record name fields) := by
  intro v value
  obtain ⟨b, heads⟩ := value.exists_heads
  by_cases hlist : b = 0x5B
  · obtain ⟨l, rfl⟩ := heads.list hlist
    refine (Fields.inOrder_decides name fields.size decides l).imp ?_ ?_
    · rintro ⟨as, has⟩
      exact ⟨as, fun ws rest blank _ => by rw [record_list l blank, has]⟩
    · intro hfails ws rest blank _
      obtain ⟨e, he⟩ := hfails rest
      exact ⟨e, by rw [record_list l blank, he]⟩
  by_cases hobject : b = 0x7B
  · obtain ⟨lead, ms, blank, spaced, labels, values, rfl⟩ := heads.object hobject
    obtain ⟨ns, hsame, spaced, names, values⟩ := exists_names lead spaced labels values
    rw [← hsame]
    refine (record_cases name decides distinct blank spaced names values).imp ?_ ?_
    · rintro ⟨as, _, hreads⟩
      exact ⟨as, fun ws rest blank _ => hreads ws rest blank⟩
    · rintro ⟨_, hrefuses⟩
      exact fun ws rest blank _ => hrefuses ws rest blank
  · refine Or.inr (refuses_of_mismatch s!"struct {name}" heads ?_)
    split
    · contradiction
    · rename_i h
      exact absurd (Option.some.inj h) hlist
    · rename_i h
      exact absurd (Option.some.inj h) hobject
    · rfl

/-- A type whose values are made of the values of fields is read as the members give them. -/
theorem reads_made_iff {β : Type} (make : Values αs → β) (parts : β → Values αs)
    (decides : fields.Decides) (distinct : fields.names.Nodup) (left : ∀ as, parts (make as) = as)
    (right : ∀ b, make (parts b) = b) {o : ObjectText} {b : β} :
    Reads (do return make (← record name fields)) o.bytes b ↔
      fields.Assigns o.members (parts b) := by
  rw [(record_decides decides distinct).reads_map_iff o.isValue]
  constructor
  · rintro ⟨as, has, rfl⟩
    rw [left]
    exact (reads_record_iff decides distinct).mp has
  · intro h
    exact ⟨parts b, (reads_record_iff decides distinct).mpr h, right b⟩

end Reader

/-! ## What members tell -/

section Tells

variable {α : Type} {read : Reader α} {name : String} {ms : List Member} {a : α}

/-- One member has the name, and its value is read as `a`. -/
def Tells (ms : List Member) (name : String) (read : Reader α) (a : α) : Prop :=
  ∃ m, membersNamed name ms = [m] ∧ read.run m.value = .ok a

/-- One member has the name and tells the value, or none does and the value is what to fall back
on. -/
def TellsOr (ms : List Member) (name : String) (read : Reader α) (fallback a : α) : Prop :=
  Tells ms name read a ∨ membersNamed name ms = [] ∧ a = fallback

/-- No member has the name, or one does, with `null` or a value that is read. -/
def MayTell (ms : List Member) (name : String) (read : Reader α) (o : Option α) : Prop :=
  membersNamed name ms = [] ∧ o = none ∨
    ∃ m, membersNamed name ms = [m] ∧ (m.value = nullBytes ∧ o = none ∨
      m.value ≠ nullBytes ∧ ∃ a, o = some a ∧ read.run m.value = .ok a)

theorem mem_of_membersNamed {m : Member} {others : List Member}
    (h : membersNamed name ms = m :: others) : m ∈ ms :=
  List.mem_of_mem_filter (h ▸ List.mem_cons_self)

private theorem exists_reads_iff (decides : read.Decides) (values : ∀ m ∈ ms, IsValue m.value) :
    (∃ m, membersNamed name ms = [m] ∧ read.Reads m.value a) ↔ Tells ms name read a := by
  refine exists_congr fun m => and_congr_right fun hm => ?_
  exact (decides.run_eq_ok_iff_reads (values m (mem_of_membersNamed hm))).symm

theorem assigns_required_iff (decides : read.Decides) (values : ∀ m ∈ ms, IsValue m.value) :
    (Field.required name read).Assigns ms a ↔ Tells ms name read a := by
  rw [← exists_reads_iff decides values]
  refine or_iff_left ?_
  rintro ⟨_, hfallback⟩
  cases hfallback

theorem assigns_defaulted_iff (decides : read.Decides) (values : ∀ m ∈ ms, IsValue m.value)
    {fallback : α} : (Field.defaulted name read fallback).Assigns ms a ↔
      TellsOr ms name read fallback a := by
  rw [TellsOr, ← exists_reads_iff decides values]
  refine or_congr_right (and_congr_right fun _ => ?_)
  exact Option.some_inj.trans eq_comm

theorem assigns_optional_iff (decides : read.Decides) (values : ∀ m ∈ ms, IsValue m.value)
    {o : Option α} : (Field.optional name read).Assigns ms o ↔ MayTell ms name read o := by
  rw [MayTell, or_comm (a := membersNamed name ms = [] ∧ o = none)]
  refine or_congr (exists_congr fun m => and_congr_right fun hm => ?_) (and_congr_right fun _ => ?_)
  · have value := values m (mem_of_membersNamed hm)
    refine (Reader.reads_optional_iff decides value).trans ?_
    refine or_congr_right (and_congr_right fun _ => exists_congr fun a => ?_)
    refine and_congr_right fun _ => ?_
    exact (decides.run_eq_ok_iff_reads value).symm
  · exact Option.some_inj.trans eq_comm

end Tells

end Matchmaking.Json
