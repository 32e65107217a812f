import Matchmaking.Event.Envelope
import Matchmaking.Proofs.Match.Codec

/-!
# Which objects are envelopes
-/

namespace Matchmaking.Envelope

open Json Json.Reader Time

variable {α : Type} {payload : Reader α}

/-- What the members of an object tell of an envelope, given a reader of its payload. -/
@[mk_iff] structure Told (payload : Reader α) (ms : List Member) (e : Envelope α) : Prop where
  id : Tells ms "message_id" Id.reader e.id
  occurredAt : Tells ms "occurred_at" Timestamp.reader e.occurredAt
  kind : Tells ms "message_type" Reader.text e.kind
  version : Tells ms "message_version" Reader.int32 e.version
  producer : Tells ms "producer" Reader.text e.producer
  correlation : MayTell ms "correlation_id" Reader.text e.correlation
  payload : Tells ms "payload" payload e.payload

theorem fields_decides (h : payload.Decides) : (fields payload).Decides :=
  ⟨Id.reader_decides, Timestamp.reader_decides, text_decides, int32_decides, text_decides,
    text_decides.optional, h, trivial⟩

theorem fields_distinct (payload : Reader α) : (fields payload).names.Nodup := by
  show ["message_id", "occurred_at", "message_type", "message_version", "producer",
    "correlation_id", "payload"].Nodup
  decide

private def make :
    Values [MessageId, Timestamp, String, Int32, String, Option String, α] → Envelope α
  | (id, occurredAt, kind, version, producer, correlation, payload, ()) =>
    { id, occurredAt, kind, version, producer, correlation, payload }

private def parts (e : Envelope α) :
    Values [MessageId, Timestamp, String, Int32, String, Option String, α] :=
  (e.id, e.occurredAt, e.kind, e.version, e.producer, e.correlation, e.payload, ())

theorem reader_decides (h : payload.Decides) : (reader payload).Decides :=
  (record_decides (fields_decides h) (fields_distinct payload)).map make

theorem reads_iff_assigns (h : payload.Decides) {o : ObjectText} {e : Envelope α} :
    (reader payload).Reads o.bytes e ↔ (fields payload).Assigns o.members (parts e) :=
  reads_made_iff make parts (fields_decides h) (fields_distinct payload) (fun _ => rfl) fun _ => rfl

theorem reads_iff (h : payload.Decides) {o : ObjectText} {e : Envelope α} :
    (reader payload).Reads o.bytes e ↔ Told payload o.members e := by
  rw [reads_iff_assigns h, told_iff]
  exact and_congr (assigns_required_iff Id.reader_decides o.values) <|
    and_congr (assigns_required_iff Timestamp.reader_decides o.values) <|
    and_congr (assigns_required_iff text_decides o.values) <|
    and_congr (assigns_required_iff int32_decides o.values) <|
    and_congr (assigns_required_iff text_decides o.values) <|
    and_congr (assigns_optional_iff text_decides o.values) <|
    (and_iff_left trivial).trans (assigns_required_iff h o.values)

/-! ## What becomes of an envelope that is read -/

section Decode

variable {expected : String} {newest : Int32} {bytes : List UInt8} {e : Envelope α}

theorem decode_of_read (h : (reader payload).run bytes = .ok e) :
    decode payload expected newest bytes =
      if e.kind ≠ expected then .error (.unexpectedKind expected e.kind)
      else if newest < e.version then .error (.unsupportedVersion e.kind e.version)
      else .ok e := by
  rw [decode, h]

theorem decode_eq_ok_iff : decode payload expected newest bytes = .ok e ↔
    (reader payload).run bytes = .ok e ∧ e.kind = expected ∧ e.version ≤ newest := by
  cases hread : (reader payload).run bytes with
  | error why => simp [decode, hread]
  | ok e' =>
      rw [decode_of_read hread]
      constructor
      · intro h
        split at h
        · cases h
        · rename_i hkind
          split at h
          · cases h
          · rename_i hversion
            cases h
            exact ⟨rfl, not_not.mp hkind, Int32.not_lt.mp hversion⟩
      · rintro ⟨hsame, hkind, hversion⟩
        cases hsame
        rw [if_neg (not_not.mpr hkind), if_neg (Int32.not_lt.mpr hversion)]

theorem decode_malformed_iff :
    (∃ why, decode payload expected newest bytes = .error (.malformed why)) ↔
      ∀ e, (reader payload).run bytes ≠ .ok e := by
  cases hread : (reader payload).run bytes with
  | error why => simp [decode, hread]
  | ok e =>
      rw [decode_of_read hread]
      refine iff_of_false ?_ fun h => h e rfl
      rintro ⟨why, h⟩
      split at h
      · cases h
      · split at h <;> cases h

end Decode

end Matchmaking.Envelope
