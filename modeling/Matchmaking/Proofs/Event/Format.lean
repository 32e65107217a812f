import Mathlib.Data.List.Perm.Basic
import Matchmaking.Proofs.Event.Envelope
import Matchmaking.Proofs.Match.RoundTrip

/-!
# The format of what is published

An object is decoded by what its declared members tell. What else it tells, in which order, and how
it is spaced is of no account, at any depth.
-/

namespace Matchmaking

open Json Json.Reader

/-! ## What the fields of a record depend on -/

namespace Json

variable {name : String} {ms ms' pre post : List Member} {m m' : Member}

def valuesNamed (name : String) (ms : List Member) : List (List UInt8) :=
  (membersNamed name ms).map (·.value)

/-- The names and values of the members with certain names, in order. -/
def tellings (names : List String) (ms : List Member) : List (String × List UInt8) :=
  (ms.filter fun m => m.name ∈ names).map fun m => (m.name, m.value)

theorem valuesNamed_eq {names : List String} (h : name ∈ names) :
    valuesNamed name ms = ((tellings names ms).filter (·.1 = name)).map (·.2) := by
  rw [valuesNamed, membersNamed, tellings, List.filter_map, List.map_map, List.filter_filter]
  congr 1
  refine List.filter_congr fun m _ => ?_
  by_cases hname : m.name = name
  · simp [hname, h]
  · simp [hname]

theorem valuesNamed_replaced (hm : m'.name = m.name) (hname : m.name ≠ name) :
    valuesNamed name (pre ++ m :: post) = valuesNamed name (pre ++ m' :: post) := by
  simp only [valuesNamed, membersNamed_append, membersNamed_cons_of_ne hname,
    membersNamed_cons_of_ne (hm ▸ hname)]

theorem valuesNamed_self (hname : m.name = name) : valuesNamed name (pre ++ m :: post) =
    valuesNamed name pre ++ m.value :: valuesNamed name post := by
  simp only [valuesNamed, membersNamed_append, membersNamed_cons_self hname, List.map_append,
    List.map_cons]

namespace Field

variable {α : Type} {field : Field α} {a : α}

theorem assigns_iff_values : field.Assigns ms a ↔
    (∃ v, valuesNamed field.name ms = [v] ∧ field.read.Reads v a) ∨
      valuesNamed field.name ms = [] ∧ field.fallback = some a := by
  refine or_congr ⟨?_, ?_⟩ (and_congr_left' List.map_eq_nil_iff.symm)
  · rintro ⟨m, hm, ha⟩
    exact ⟨m.value, by rw [valuesNamed, hm, List.map_singleton], ha⟩
  · rintro ⟨v, hv, ha⟩
    obtain ⟨m, hm, rfl⟩ := List.map_eq_singleton_iff.mp hv
    exact ⟨m, hm, ha⟩

theorem assigns_of_perm (h : (valuesNamed field.name ms).Perm (valuesNamed field.name ms')) :
    field.Assigns ms a ↔ field.Assigns ms' a := by
  have hone : ∀ v, valuesNamed field.name ms = [v] ↔ valuesNamed field.name ms' = [v] := by
    intro v
    rw [← List.perm_singleton, ← List.perm_singleton]
    exact h.congr_left _
  have hnone : valuesNamed field.name ms = [] ↔ valuesNamed field.name ms' = [] := by
    rw [← List.perm_nil, ← List.perm_nil]
    exact h.congr_left _
  simp only [assigns_iff_values, hone, hnone]

/-- A member may be replaced by one of the same name whose value is read in the same way. -/
theorem assigns_replaced (hm : m'.name = m.name)
    (same : m.name = field.name → ∀ a, field.read.Reads m.value a ↔ field.read.Reads m'.value a) :
    field.Assigns (pre ++ m :: post) a ↔ field.Assigns (pre ++ m' :: post) a := by
  by_cases hname : m.name = field.name
  · rw [assigns_iff_values, assigns_iff_values, valuesNamed_self hname,
      valuesNamed_self (hm.trans hname)]
    simp [List.append_eq_singleton_iff, same hname]
  · rw [assigns_iff_values, assigns_iff_values, valuesNamed_replaced hm hname]

end Field

theorem Fields.assigns_of_perm {αs : List Type} {fields : Fields αs} {as : Values αs}
    (h : ∀ name ∈ fields.names, (valuesNamed name ms).Perm (valuesNamed name ms')) :
    fields.Assigns ms as ↔ fields.Assigns ms' as := by
  induction fields with
  | nil => exact Iff.rfl
  | cons field others ih =>
      rw [names, List.forall_mem_cons] at h
      exact and_congr (Field.assigns_of_perm h.1) (ih h.2)

theorem Fields.assigns_of_tellings {αs : List Type} {fields : Fields αs} {as : Values αs}
    (h : (tellings fields.names ms).Perm (tellings fields.names ms')) :
    fields.Assigns ms as ↔ fields.Assigns ms' as := by
  refine assigns_of_perm fun name hname => ?_
  rw [valuesNamed_eq hname, valuesNamed_eq hname]
  exact (h.filter _).map _

end Json

/-! ## Documents that tell the same -/

/-- The containers that published documents are made of. -/
inductive Layer where
  | ticket
  | tickets
  | assignment
  | game
  | envelope

namespace Layer

def Content : Layer → Type
  | ticket => Ticket
  | tickets => List Ticket
  | assignment => Assignment
  | game => Match
  | envelope => Envelope Match

def reader : (l : Layer) → Reader l.Content
  | ticket => Ticket.reader
  | tickets => Reader.list Ticket.reader
  | assignment => Assignment.reader
  | game => Match.reader
  | envelope => Envelope.reader Match.reader

/-- The names that a layer declares, if it is an object. -/
def declared : Layer → Option (List String)
  | ticket => some Ticket.fields.names
  | tickets => none
  | assignment => some Assignment.fields.names
  | game => some Match.fields.names
  | envelope => some (Envelope.fields Match.reader).names

inductive Holds : Layer → String → Layer → Prop where
  | tickets : Holds game "tickets" tickets
  | assignment : Holds game "assignment" assignment
  | payload : Holds envelope "payload" game

theorem reader_decides (l : Layer) : l.reader.Decides := by
  cases l with
  | ticket => exact Ticket.reader_decides
  | tickets => exact Ticket.reader_decides.list
  | assignment => exact Assignment.reader_decides
  | game => exact Match.reader_decides
  | envelope => exact Envelope.reader_decides Match.reader_decides

end Layer

/-- Two documents tell the same: their declared members agree up to order, whatever others there are
and however all are spaced; or what one of their members or items holds tells the same. -/
inductive Rephrases : Layer → List UInt8 → List UInt8 → Prop where
  | members {l : Layer} {names : List String} {o o' : ObjectText}
      (declared : l.declared = some names)
      (same : (tellings names o.members).Perm (tellings names o'.members)) :
      Rephrases l o.bytes o'.bytes
  | within {l inner : Layer} {name : String} {o o' : ObjectText} {pre post : List Member}
      {m m' : Member} (holds : l.Holds name inner) (members : o.members = pre ++ m :: post)
      (members' : o'.members = pre ++ m' :: post) (name_eq : m.name = name)
      (name_eq' : m'.name = name) (inside : Rephrases inner m.value m'.value) :
      Rephrases l o.bytes o'.bytes
  | item {t t' : ListText} {pre post : List Part} {p p' : Part} (parts : t.parts = pre ++ p :: post)
      (parts' : t'.parts = pre ++ p' :: post) (inside : Rephrases .ticket p.value p'.value) :
      Rephrases .tickets t.bytes t'.bytes
  | trans {l : Layer} {v w x : List UInt8} (left : Rephrases l v w) (right : Rephrases l w x) :
      Rephrases l v x

namespace Rephrases

variable {l : Layer} {v w : List UInt8}

theorem isValue (h : Rephrases l v w) : IsValue v ∧ IsValue w := by
  induction h with
  | members => exact ⟨ObjectText.isValue _, ObjectText.isValue _⟩
  | within => exact ⟨ObjectText.isValue _, ObjectText.isValue _⟩
  | item => exact ⟨ListText.isValue _, ListText.isValue _⟩
  | trans _ _ left right => exact ⟨left.1, right.2⟩

theorem ne_null (h : Rephrases l v w) : v ≠ nullBytes ∧ w ≠ nullBytes := by
  induction h with
  | members => exact ⟨ObjectText.ne_null _, ObjectText.ne_null _⟩
  | within => exact ⟨ObjectText.ne_null _, ObjectText.ne_null _⟩
  | item => exact ⟨ListText.ne_null _, ListText.ne_null _⟩
  | trans _ _ left right => exact ⟨left.1, right.2⟩

private theorem reads_optional_congr {α : Type} {read : Reader α} {o : Option α}
    (h : Rephrases l v w) (decides : read.Decides) (same : ∀ a, read.Reads v a ↔ read.Reads w a) :
    (optional read).Reads v o ↔ (optional read).Reads w o := by
  rw [reads_optional_iff decides h.isValue.1, reads_optional_iff decides h.isValue.2]
  simp only [h.ne_null.1, h.ne_null.2, ne_eq, same]

private theorem reads_items_congr {α : Type} {read : Reader α} {pre post : List Part} {p p' : Part}
    {as : List α} (same : ∀ a, read.Reads p.value a ↔ read.Reads p'.value a) :
    List.Forall₂ (fun q a => read.Reads q.value a) (pre ++ p :: post) as ↔
      List.Forall₂ (fun q a => read.Reads q.value a) (pre ++ p' :: post) as := by
  induction pre generalizing as with
  | nil => simp only [List.nil_append, List.forall₂_cons_left_iff, same]
  | cons q pre ih => simp only [List.cons_append, List.forall₂_cons_left_iff, ih]

private theorem reads_of_tellings {names : List String} {o o' : ObjectText}
    (declared : l.declared = some names)
    (same : (tellings names o.members).Perm (tellings names o'.members)) :
    ∀ a, l.reader.Reads o.bytes a ↔ l.reader.Reads o'.bytes a := by
  intro a
  cases l with
  | tickets => cases declared
  | ticket =>
      cases declared
      exact Ticket.reads_iff_assigns.trans
        ((Fields.assigns_of_tellings same).trans Ticket.reads_iff_assigns.symm)
  | assignment =>
      cases declared
      exact Assignment.reads_iff_assigns.trans
        ((Fields.assigns_of_tellings same).trans Assignment.reads_iff_assigns.symm)
  | game =>
      cases declared
      exact Match.reads_iff_assigns.trans
        ((Fields.assigns_of_tellings same).trans Match.reads_iff_assigns.symm)
  | envelope =>
      cases declared
      have decides := Match.reader_decides
      exact (Envelope.reads_iff_assigns decides).trans
        ((Fields.assigns_of_tellings same).trans (Envelope.reads_iff_assigns decides).symm)

private theorem reads_of_held {inner : Layer} {o o' : ObjectText} {pre post : List Member}
    {m m' : Member} (holds : l.Holds m.name inner) (members : o.members = pre ++ m :: post)
    (members' : o'.members = pre ++ m' :: post) (name_eq : m'.name = m.name)
    (inside : Rephrases inner m.value m'.value)
    (same : ∀ b, inner.reader.Reads m.value b ↔ inner.reader.Reads m'.value b) :
    ∀ a, l.reader.Reads o.bytes a ↔ l.reader.Reads o'.bytes a := by
  intro a
  have other : ∀ {α : Type} {field : Json.Field α} {b : α}, m.name ≠ field.name →
      (field.Assigns o.members b ↔ field.Assigns o'.members b) := by
    intro α field b hname
    rw [members, members']
    exact Field.assigns_replaced name_eq fun h => absurd h hname
  have self : ∀ {α : Type} {field : Json.Field α} {b : α},
      (∀ c, field.read.Reads m.value c ↔ field.read.Reads m'.value c) →
      (field.Assigns o.members b ↔ field.Assigns o'.members b) := by
    intro α field b same
    rw [members, members']
    exact Field.assigns_replaced name_eq fun _ => same
  generalize m.name = name at holds other
  cases holds with
  | tickets =>
      refine Match.reads_iff_assigns.trans (Iff.trans ?_ Match.reads_iff_assigns.symm)
      exact and_congr (other (by decide)) <| and_congr (other (by decide)) <|
        and_congr (other (by decide)) <| and_congr (self same) <|
        and_congr (other (by decide)) Iff.rfl
  | assignment =>
      refine Match.reads_iff_assigns.trans (Iff.trans ?_ Match.reads_iff_assigns.symm)
      exact and_congr (other (by decide)) <| and_congr (other (by decide)) <|
        and_congr (other (by decide)) <| and_congr (other (by decide)) <|
        and_congr (self fun _ => reads_optional_congr inside Assignment.reader_decides same) Iff.rfl
  | payload =>
      have decides := Match.reader_decides
      refine (Envelope.reads_iff_assigns decides).trans
        (Iff.trans ?_ (Envelope.reads_iff_assigns decides).symm)
      exact and_congr (other (by decide)) <| and_congr (other (by decide)) <|
        and_congr (other (by decide)) <| and_congr (other (by decide)) <|
        and_congr (other (by decide)) <| and_congr (other (by decide)) <|
        and_congr (self same) Iff.rfl

theorem reads_iff (h : Rephrases l v w) : ∀ a, l.reader.Reads v a ↔ l.reader.Reads w a := by
  induction h with
  | members declared same => exact reads_of_tellings declared same
  | @within l inner name o o' pre post m m' holds members members' name_eq name_eq' inside ih =>
      subst name_eq
      exact reads_of_held holds members members' name_eq' inside ih
  | @item t t' pre post p p' parts parts' inside ih =>
      intro as
      refine (reads_list_iff Ticket.reader_decides).trans
        (Iff.trans ?_ (reads_list_iff Ticket.reader_decides).symm)
      rw [parts, parts']
      exact reads_items_congr ih
  | trans _ _ left right => exact fun a => (left a).trans (right a)

end Rephrases

/-- An object is decoded just if its members tell each declared part, and to what they tell.
Documents that tell the same are decoded to the same. -/
theorem decoded_by_declared_members {before after : List UInt8} (blank : Blank before)
    (blank' : Blank after) :
    (∀ o : ObjectText,
      (∀ t, Ticket.reader.run (before ++ (o.bytes ++ after)) = .ok t ↔ Ticket.Told o.members t) ∧
      (∀ a, Assignment.reader.run (before ++ (o.bytes ++ after)) = .ok a ↔
        Assignment.Told o.members a) ∧
      (∀ m, Match.reader.run (before ++ (o.bytes ++ after)) = .ok m ↔ Match.Told o.members m) ∧
      ∀ expected newest,
        (∀ e, Envelope.decode Match.reader expected newest (before ++ (o.bytes ++ after)) = .ok e ↔
          Envelope.Told Match.reader o.members e ∧ e.kind = expected ∧ e.version ≤ newest) ∧
        ((∃ why, Envelope.decode Match.reader expected newest (before ++ (o.bytes ++ after)) =
          .error (.malformed why)) ↔ ∀ e, ¬Envelope.Told Match.reader o.members e)) ∧
    ∀ (l : Layer) (v w : List UInt8), Rephrases l v w →
      ∀ a, l.reader.run v = .ok a ↔ l.reader.run (before ++ (w ++ after)) = .ok a := by
  refine ⟨fun o => ⟨fun t => ?_, fun a => ?_, fun m => ?_, fun expected newest => ?_⟩, ?_⟩
  · exact (Ticket.reader_decides.run_eq_ok_iff o.isValue blank blank').trans Ticket.reads_iff
  · exact (Assignment.reader_decides.run_eq_ok_iff o.isValue blank blank').trans
      Assignment.reads_iff
  · exact (Match.reader_decides.run_eq_ok_iff o.isValue blank blank').trans Match.reads_iff
  · have decides := Match.reader_decides
    have hread : ∀ e, (Envelope.reader Match.reader).run (before ++ (o.bytes ++ after)) = .ok e ↔
        Envelope.Told Match.reader o.members e := fun e =>
      ((Envelope.reader_decides decides).run_eq_ok_iff o.isValue blank blank').trans
        (Envelope.reads_iff decides)
    refine ⟨fun e => ?_, ?_⟩
    · rw [Envelope.decode_eq_ok_iff, hread]
    · rw [Envelope.decode_malformed_iff]
      exact forall_congr' fun e => not_congr (hread e)
  · intro l v w h a
    rw [l.reader_decides.run_eq_ok_iff_reads h.isValue.1,
      l.reader_decides.run_eq_ok_iff h.isValue.2 blank blank', h.reads_iff]

section Trial

private def trialPlacement : Assignment := ⟨"arena-1", "10.0.0.1", 25565, none, some "1.21"⟩

private def trialNoted : List (String × Value) := [
  ("notes", .list [.flag true]),
  ("version_name", .text "1.21"),
  ("server_port", .integer 25565),
  ("notes", .text ""),
  ("server_id", .text "arena-1"),
  ("server_address", .text "10.0.0.1")]

private theorem isValue_of_mem_trialNoted : ∀ p ∈ trialNoted, IsValue p.2.bytes := by
  have hlist := flag_faithful.list flag_decides [true]
  have hport : IsValue (Value.integer 25565).bytes := (uint16_faithful 25565).isValue
  simp only [trialNoted, List.forall_mem_cons]
  exact ⟨hlist.isValue, (text_faithful _).isValue, hport, (text_faithful _).isValue,
    (text_faithful _).isValue, (text_faithful _).isValue, by simp⟩

private def trialNotedText : ObjectText := objectText trialNoted isValue_of_mem_trialNoted

private theorem trialNoted_told : Assignment.Told trialNotedText.members trialPlacement where
  server := (text_faithful _).tells rfl
  address := (text_faithful _).tells rfl
  port := (uint16_faithful 25565).tells rfl
  protocolVersion := int64_faithful.mayTell rfl
  versionName := text_faithful.mayTell rfl

private def trialPlainText : ObjectText :=
  objectText (trialNoted.reverse.filter fun p => p.1 ≠ "notes") fun p hp =>
    isValue_of_mem_trialNoted p (List.mem_reverse.mp (List.mem_of_mem_filter hp))

private theorem trialPlain_rephrases :
    Rephrases .assignment trialPlainText.bytes trialNotedText.bytes :=
  .members rfl (List.reverse_perm (tellings Assignment.fields.names trialNotedText.members))

theorem trial_decoded_by_members :
    Assignment.reader.run ([0x20] ++ (trialNotedText.bytes ++ [0x0A])) = .ok trialPlacement ∧
      Assignment.reader.run trialPlainText.bytes = .ok trialPlacement := by
  have blank : Blank [0x20] := List.forall_mem_singleton.mpr rfl
  have blank' : Blank [0x0A] := List.forall_mem_singleton.mpr rfl
  obtain ⟨objects, rephrased⟩ := decoded_by_declared_members blank blank'
  have hnoted := ((objects trialNotedText).2.1 trialPlacement).mpr trialNoted_told
  exact ⟨hnoted, (rephrased .assignment _ _ trialPlain_rephrases trialPlacement).mpr hnoted⟩

end Trial

end Matchmaking
