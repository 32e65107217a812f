import Matchmaking.Announcement.Remote
import Matchmaking.Proofs.Event.Envelope
import Matchmaking.Proofs.Match.RoundTrip
import Matchmaking.Proofs.Net.Client

/-!
# What is published is read as it was written

Leap seconds within a minute apart, which are read as the seconds after them.
-/

namespace Matchmaking

open Json Time Net

namespace Envelope

/-- The envelope that a written one is read as. -/
def asRead (e : Envelope Match) : Envelope Match :=
  { e with occurredAt := e.occurredAt.asRead, payload := e.payload.asRead }

def IsRegular (e : Envelope Match) : Prop := e.occurredAt.IsRegular ∧ e.payload.IsRegular

theorem asRead_eq_self_iff {e : Envelope Match} : e.asRead = e ↔ e.IsRegular := by
  rw [IsRegular, ← Timestamp.asRead_eq_self_iff, ← Match.asRead_eq_self_iff]
  constructor
  · intro h
    exact ⟨congrArg Envelope.occurredAt h, congrArg Envelope.payload h⟩
  · rintro ⟨occurredAt, payload⟩
    rw [asRead, occurredAt, payload]

theorem carries (e : Envelope Match) :
    Carries (reader Match.reader) (e.toJson Match.toJson) e.asRead := by
  have correlation := fun name => text_faithful.optional_isValue name e.correlation
  refine Carries.object ?_ fun o members => (reads_iff Match.reader_decides).mpr ?_
  · simp only [List.forall_mem_append, List.forall_mem_cons]
    exact ⟨⟨⟨(Id.faithful _).isValue, e.occurredAt.carries.isValue, (text_faithful _).isValue,
      (int32_faithful _).isValue, (text_faithful _).isValue, by simp⟩, correlation _⟩,
      e.payload.carries.isValue, by simp⟩
  · rw [members]
    refine ⟨(Id.faithful _).tells ?_, e.occurredAt.carries.tells ?_, (text_faithful _).tells ?_,
      (int32_faithful _).tells ?_, (text_faithful _).tells ?_, text_faithful.mayTell ?_,
      e.payload.carries.tells ?_⟩
    all_goals simp [asRead, filter_optional_self, filter_optional_of_ne]

theorem run_encode (e : Envelope Match) :
    (reader Match.reader).run (e.encode Match.toJson) = .ok e.asRead :=
  e.carries.run

end Envelope

namespace MessageBus

/-- An envelope is posted, and has been delivered if the answer reports success. -/
structure Publishes (b : MessageBus) (server : Server) (e : Envelope Match) : Prop where
  posted : ∀ r ∈ (b.deliver server e).received, r.method = "POST" → r.body = e.encode Match.toJson
  first : ∀ target u answer answers, Locates b.url server.place target u →
    server.answers = answer :: answers →
      (b.deliver server e).received.head? =
        some ⟨"POST", target, some "application/json", e.encode Match.toJson⟩
  delivered : (b.deliver server e).verdict = none ↔
    ∃ reply, (b.exchange server e).outcome = .ok reply ∧ reply.status.isSuccess = true
  answered : ∀ target u status body answers, Locates b.url server.place target u →
    server.answers = .reply status none body :: answers → isFinal status none = true →
      ((b.deliver server e).verdict = none ↔ status.isSuccess = true)

variable {b : MessageBus} {server : Server} {e : Envelope Match}

theorem received_deliver : (b.deliver server e).received = (b.exchange server e).received := by
  unfold deliver
  dsimp only
  split <;> rfl

theorem verdict_deliver :
    (b.deliver server e).verdict = verdict (b.exchange server e).outcome := by
  unfold deliver
  dsimp only
  split <;> simp only [*]

theorem verdict_eq_none_iff {outcome : Except ClientError Reply} :
    verdict outcome = none ↔ ∃ reply, outcome = .ok reply ∧ reply.status.isSuccess = true := by
  cases outcome with
  | error why => simp [verdict]
  | ok reply => simp [verdict]

theorem publishes (b : MessageBus) (server : Server) (e : Envelope Match) :
    b.Publishes server e where
  posted := by
    intro r hr post
    rw [received_deliver] at hr
    exact body_of_mem_received_post hr post
  first := by
    obtain ⟨place, _⟩ := server
    rintro target u answer answers locates rfl
    rw [received_deliver]
    exact locates.head?_received_post answer
  delivered := by
    rw [verdict_deliver]
    exact verdict_eq_none_iff
  answered := by
    obtain ⟨place, _⟩ := server
    rintro target u status body answers locates rfl final
    rw [verdict_deliver, exchange, locates.post_answered final, verdict_eq_none_iff]
    simp [replyOf]

end MessageBus

/-- A written envelope is opened again as it was but for leap seconds within a minute, or refused by
its kind and then by its version. Whatever is posted to announce a match is opened by who wants
announcements, and names the match. -/
theorem decode_undoes_encode :
    (∀ (e : Envelope Match) (expected : String) (newest : Int32),
      (e.kind = expected → e.version ≤ newest →
        Envelope.decode Match.reader expected newest (e.encode Match.toJson) = .ok e.asRead) ∧
      (e.asRead = e ↔ e.IsRegular) ∧
      (e.kind ≠ expected →
        Envelope.decode Match.reader expected newest (e.encode Match.toJson) =
          .error (.unexpectedKind expected e.kind)) ∧
      (e.kind = expected → newest < e.version →
        Envelope.decode Match.reader expected newest (e.encode Match.toJson) =
          .error (.unsupportedVersion e.kind e.version))) ∧
    ∀ (id : MessageId) (now : Timestamp) (m : Match), ∃ e,
      Envelope.decode Match.reader matchCreatedKind matchCreatedVersion
        (Envelope.encode Match.toJson (.matchCreated id now announcementProducer m)) = .ok e ∧
      e.payload = m.asRead ∧ (m.asRead = m ↔ m.IsRegular) ∧
      (∃ c, e.correlation = some c ∧ (Id.parse c : Except IdError MatchId) = .ok m.id) ∧
      ∀ (b : MessageBus) (server : Server),
        b.Publishes server (.matchCreated id now announcementProducer m) := by
  constructor
  · intro e expected newest
    refine ⟨?_, Envelope.asRead_eq_self_iff, ?_, ?_⟩
    · intro kind version
      exact Envelope.decode_eq_ok_iff.mpr ⟨e.run_encode, kind, version⟩
    · intro kind
      rw [Envelope.decode_of_read e.run_encode]
      exact if_pos kind
    · intro kind version
      rw [Envelope.decode_of_read e.run_encode]
      exact (if_neg (not_not.mpr kind)).trans (if_pos version)
  · intro id now m
    refine ⟨(Envelope.matchCreated id now announcementProducer m).asRead, ?_, rfl,
      Match.asRead_eq_self_iff, ⟨m.id.text, rfl, Id.parse_text m.id⟩,
      fun b server => b.publishes server _⟩
    exact Envelope.decode_eq_ok_iff.mpr ⟨Envelope.run_encode _, rfl, Int32.le_refl _⟩

section Trial

private def trialMoment : Timestamp :=
  ⟨⟨12000, 12, 31, by decide, by decide, by decide⟩, ⟨23, by decide⟩, ⟨59, by decide⟩,
    ⟨59, by decide⟩, ⟨1000005000, by decide⟩⟩

private def trialMatch : Match :=
  { Match.new ⟨7⟩ "duel" with
    map := some "\"\n"
    tickets := [⟨[⟨1⟩, ⟨2⟩], trialMoment, "duel", true, false, true⟩] }

private def trialEnvelope : Envelope Match :=
  .matchCreated ⟨1⟩ trialMoment announcementProducer trialMatch

private theorem trialEnvelope_isRegular : trialEnvelope.IsRegular := by
  refine ⟨Or.inr rfl, ?_⟩
  intro t ht
  obtain rfl := List.mem_singleton.mp ht
  exact Or.inr rfl

/-- A leap second within a minute. -/
private def leapMoment : Timestamp :=
  ⟨⟨2015, 6, 30, by decide, by decide, by decide⟩, ⟨23, by decide⟩, ⟨56, by decide⟩,
    ⟨4, by decide⟩, ⟨1333333333, by decide⟩⟩

theorem leap_second_not_undone :
    ¬∀ (e : Envelope Match) (expected : String) (newest : Int32),
      e.kind = expected → e.version ≤ newest →
        Envelope.decode Match.reader expected newest (e.encode Match.toJson) = .ok e := by
  intro h
  let e := Envelope.matchCreated ⟨1⟩ leapMoment announcementProducer (Match.new ⟨7⟩ "duel")
  have undone := h e matchCreatedKind 1 rfl (Int32.le_refl _)
  have read := (Envelope.decode_eq_ok_iff.mp undone).1
  rw [e.run_encode] at read
  have regular : leapMoment.IsRegular :=
    (Envelope.asRead_eq_self_iff.mp (Except.ok.inj read)).1
  exact absurd regular (by decide)

theorem trial_decoded :
    Envelope.decode Match.reader matchCreatedKind 1 (trialEnvelope.encode Match.toJson) =
      .ok trialEnvelope ∧
    Envelope.decode Match.reader "match.ended" 0 (trialEnvelope.encode Match.toJson) =
      .error (.unexpectedKind "match.ended" matchCreatedKind) ∧
    Envelope.decode Match.reader matchCreatedKind 0 (trialEnvelope.encode Match.toJson) =
      .error (.unsupportedVersion matchCreatedKind 1) ∧
    let delivery := (MessageBus.mk loopbackUrl).deliver (loopback ⟨200⟩ []) trialEnvelope
    delivery.verdict = none ∧
      delivery.received.head? =
        some ⟨"POST", "/", some "application/json", trialEnvelope.encode Match.toJson⟩ := by
  obtain ⟨decoded, published⟩ := decode_undoes_encode
  obtain ⟨e, _, _, _, _, publishes⟩ := published ⟨1⟩ trialMoment trialMatch
  have sent := publishes ⟨loopbackUrl⟩ (loopback ⟨200⟩ [])
  have final : isFinal ⟨200⟩ none = true := by decide
  have success : (Status.mk 200).isSuccess = true := by decide
  obtain ⟨undone, regular, _⟩ := decoded trialEnvelope matchCreatedKind 1
  refine ⟨?_, (decoded trialEnvelope "match.ended" 0).2.2.1 (by decide),
    (decoded trialEnvelope matchCreatedKind 0).2.2.2 rfl (by decide), ?_, ?_⟩
  · rw [undone rfl (by decide), regular.mpr trialEnvelope_isRegular]
  · exact (sent.answered _ _ _ _ _ locates_loopback rfl final).mpr success
  · exact sent.first _ _ _ _ locates_loopback rfl

end Trial

end Matchmaking
