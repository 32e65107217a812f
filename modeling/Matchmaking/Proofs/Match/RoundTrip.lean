import Matchmaking.Proofs.Id.Spelling
import Matchmaking.Proofs.Json.Render
import Matchmaking.Proofs.Match.Codec
import Matchmaking.Proofs.Time.Timestamp

/-!
# Matches are read as they were written

All but leap seconds within a minute: those are read as the seconds after them.
-/

namespace Matchmaking

open Json Time

theorem Id.faithful {kind : IdKind} : Faithful Id.toJson (Id.reader : Reader (Id kind)) := by
  intro id
  refine Carries.named ?_
  rw [Id.parse_text]
  rfl

theorem PlayerId.faithful : Faithful PlayerId.toJson PlayerId.reader := by
  intro id
  refine Carries.named ?_
  rw [PlayerId.text, Uuid.decode_encode]

theorem Time.Timestamp.carries (t : Timestamp) : Carries Timestamp.reader t.toJson t.asRead := by
  refine Carries.named ?_
  rw [Timestamp.parse_text]
  rfl

namespace Ticket

/-- The ticket that a written one is read as. -/
def asRead (t : Ticket) : Ticket := { t with createdAt := t.createdAt.asRead }

def IsRegular (t : Ticket) : Prop := t.createdAt.IsRegular

theorem asRead_eq_self_iff {t : Ticket} : t.asRead = t ↔ t.IsRegular := by
  rw [IsRegular, ← Timestamp.asRead_eq_self_iff]
  constructor
  · intro h
    exact congrArg Ticket.createdAt h
  · intro h
    rw [asRead, h]

theorem carries (t : Ticket) : Carries reader t.toJson t.asRead := by
  have players := PlayerId.faithful.list PlayerId.reader_decides t.players
  refine Carries.object ?_ fun o members => reads_iff.mpr ?_
  · simp only [List.forall_mem_cons]
    exact ⟨players.isValue, t.createdAt.carries.isValue, (text_faithful _).isValue,
      (flag_faithful _).isValue, (flag_faithful _).isValue, (flag_faithful _).isValue, by simp⟩
  · rw [members]
    exact ⟨players.tells rfl, t.createdAt.carries.tells rfl, (text_faithful _).tells rfl,
      (flag_faithful _).tells rfl, (flag_faithful _).tells rfl, (flag_faithful _).tells rfl⟩

end Ticket

theorem Assignment.faithful : Faithful Assignment.toJson Assignment.reader := by
  intro a
  have version := fun name => int64_faithful.optional_isValue name a.protocolVersion
  have versionName := fun name => text_faithful.optional_isValue name a.versionName
  refine Carries.object ?_ fun o members => Assignment.reads_iff.mpr ?_
  · simp only [List.forall_mem_append, List.forall_mem_cons]
    exact ⟨⟨⟨(text_faithful _).isValue, (text_faithful _).isValue, (uint16_faithful _).isValue,
      by simp⟩, version _⟩, versionName _⟩
  · rw [members]
    refine ⟨(text_faithful _).tells ?_, (text_faithful _).tells ?_, (uint16_faithful _).tells ?_,
      int64_faithful.mayTell ?_, text_faithful.mayTell ?_⟩
    all_goals simp [filter_optional_self, filter_optional_of_ne]

namespace Match

/-- The match that a written one is read as. -/
def asRead (m : Match) : Match := { m with tickets := m.tickets.map Ticket.asRead }

def IsRegular (m : Match) : Prop := ∀ t ∈ m.tickets, t.IsRegular

theorem asRead_eq_self_iff {m : Match} : m.asRead = m ↔ m.IsRegular := by
  have htickets : m.tickets.map Ticket.asRead = m.tickets ↔ m.IsRegular := by
    refine Iff.trans ?_ (forall₂_congr fun t _ => Ticket.asRead_eq_self_iff)
    rw [← List.map_inj_left, List.map_id']
  rw [← htickets]
  constructor
  · intro h
    exact congrArg Match.tickets h
  · intro h
    rw [asRead, h]

theorem carries (m : Match) : Carries reader m.toJson m.asRead := by
  have tickets : Carries (Reader.list Ticket.reader) (Value.ofList Ticket.toJson m.tickets)
      (m.tickets.map Ticket.asRead) := by
    refine Carries.list ?_ Ticket.reader_decides
    rw [List.forall₂_map_left_iff, List.forall₂_map_right_iff]
    exact List.forall₂_same.mpr fun t _ => t.carries
  have map := fun name => text_faithful.optional_isValue name m.map
  have assignment := fun name => Assignment.faithful.optional_isValue name m.assignment
  refine Carries.object ?_ fun o members => reads_iff.mpr ?_
  · simp only [List.forall_mem_append, List.forall_mem_cons]
    exact ⟨⟨⟨⟨(Id.faithful _).isValue, (text_faithful _).isValue, by simp⟩, map _⟩,
      tickets.isValue, by simp⟩, assignment _⟩
  · rw [members]
    refine ⟨(Id.faithful _).tells ?_, (text_faithful _).tells ?_, text_faithful.mayTell ?_,
      tickets.tells ?_, Assignment.faithful.mayTell ?_⟩
    all_goals simp [asRead, filter_optional_self, filter_optional_of_ne]

end Match

end Matchmaking
