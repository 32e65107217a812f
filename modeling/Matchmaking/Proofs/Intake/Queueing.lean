import Mathlib.Data.List.TakeWhile
import Matchmaking.Intake.Api
import Matchmaking.Proofs.Id.Spelling
import Matchmaking.Proofs.Intake.Problem
import Matchmaking.Proofs.Json.Content
import Matchmaking.Proofs.Match.Codec
import Matchmaking.Proofs.Queue.Refinement

/-!
# A request is queued as a whole or not at all

A request changes the queue by the wish that its body states and by nothing else, and a body that
states none is told whether its form or its content is wrong. Of any requests and drains, the queue
and the drained wishes are those of the accepted wishes alone.
-/

namespace Matchmaking.Intake

open Json Json.Reader Net Time

/-! ## The document of a wish -/

/-- What the members of an object tell of a wish. -/
@[mk_iff] structure Told (ms : List Member) (i : Intent) : Prop where
  player : Tells ms "player_id" PlayerId.reader i.player
  autoTeleport : TellsOr ms "auto_teleport" Reader.flag false i.autoTeleport

section Document

variable {o : ObjectText} {i : Intent} {ws rest : List UInt8}

private theorem intentFields_decides : intentFields.Decides :=
  ⟨PlayerId.reader_decides, flag_decides, trivial⟩

private theorem intentFields_distinct : intentFields.names.Nodup := by decide

private theorem intentFields_judges : intentFields.Judges :=
  ⟨named_judges _ _, flag_judges, trivial⟩

private theorem assigns_iff : intentFields.Assigns o.members (i.player, i.autoTeleport, ()) ↔
    Told o.members i := by
  rw [told_iff]
  exact and_congr (assigns_required_iff PlayerId.reader_decides o.values) <|
    (and_iff_left trivial).trans (assigns_defaulted_iff flag_decides o.values)

private theorem dropSpace_isEmpty_iff : (dropSpace rest).isEmpty = true ↔ Blank rest := by
  rw [List.isEmpty_iff, dropSpace, List.dropWhile_eq_nil_iff]
  rfl

/-- An object that tells a wish is a document of it if nothing but blanks follows; anything else
that follows is wrong in form. -/
theorem run_of_told (told : Told o.members i) (blank : Blank ws) (rest : List UInt8) :
    intentReader.run (ws ++ (o.bytes ++ rest)) =
      if (dropSpace rest).isEmpty then .ok i else .error ⟨[], .flaw .trailingCharacters⟩ := by
  have hread : intentReader (ws ++ (o.bytes ++ rest)) = .ok (i, rest) :=
    bind_of_ok (record_of_assigns intentFields_decides intentFields_distinct
      (assigns_iff.mpr told) blank rest)
  rw [Reader.run, hread]

/-- An object that tells no wish is wrong in content, whatever follows it. -/
theorem run_of_untold (untold : ∀ i, ¬Told o.members i)
    (legible : ∀ m ∈ o.members, m.name ∈ intentFields.names → Legible m.value) (blank : Blank ws)
    (rest : List UInt8) : ∃ why, intentReader.run (ws ++ (o.bytes ++ rest)) = .error why ∧
      why.fault.isContent = true := by
  have hnone : ∀ as, ¬intentFields.Assigns o.members as := by
    rintro ⟨player, autoTeleport, ⟨⟩⟩ has
    exact untold ⟨player, autoTeleport⟩ (assigns_iff.mp has)
  obtain ⟨e, he⟩ := record_of_not_assigns "QueuePlayerRequest" intentFields_decides
    intentFields_distinct hnone blank rest
  have content := settles_record intentFields_decides intentFields_judges o legible blank e he
  have hread : intentReader (ws ++ (o.bytes ++ rest)) = .error e := bind_of_error he
  exact ⟨e, by rw [Reader.run, hread], content⟩

theorem run_of_scalar {v : List UInt8} (value : IsValue v) (legible : Legible v)
    (not_list : ∀ l : ListText, v ≠ l.bytes) (not_object : ∀ lead ms, v ≠ objectBytes lead ms)
    (before : Blank ws) (after : Blank rest) :
    ∃ why, intentReader.run (ws ++ (v ++ rest)) = .error why ∧ why.fault.isContent = true := by
  have follows : Follows rest := by
    rw [← List.append_nil rest]
    exact after.follows follows_nil
  obtain ⟨e, he, content⟩ :=
    exists_isContent_of_scalar value legible not_list not_object before follows
  have hread : intentReader (ws ++ (v ++ rest)) = .error e := bind_of_error he
  exact ⟨e, by rw [Reader.run, hread], content⟩

end Document

/-! ## One request -/

namespace ApiRequest

structure Queues (r : ApiRequest) : Prop where
  method : r.method = "POST"
  route : Route.ofTarget? r.target = some .queue

/-- The body is said to be JSON and is not too large. -/
structure Readable (r : ApiRequest) : Prop where
  mediaType : acceptsMediaType r.mediaType = true
  size : r.body.length ≤ bodyLimit

/-- The body states a wish. -/
structure Wishes (r : ApiRequest) (i : Intent) : Prop extends r.Readable where
  decoded : intentReader.run r.body = .ok i

/-- The body can be read up to something that is not what it should be. -/
structure Misshapen (r : ApiRequest) : Prop extends r.Readable where
  content : ∃ why, intentReader.run r.body = .error why ∧ why.fault.isContent = true

variable {r : ApiRequest} {i : Intent}

theorem Wishes.eq {j : Intent} (h : r.Wishes i) (h' : r.Wishes j) : i = j := by
  have hboth := h.decoded.symm.trans h'.decoded
  injection hboth

theorem Wishes.not_misshapen (h : r.Wishes i) : ¬r.Misshapen := by
  rintro ⟨-, why, hwhy, -⟩
  rw [h.decoded] at hwhy
  cases hwhy

theorem Readable.readIntent (h : r.Readable) : readIntent r.mediaType r.body =
    match intentReader.run r.body with
    | .ok i => .ok i
    | .error why =>
      if why.fault.isContent then
        .error (.unprocessable "invalid_request"
          ("Failed to deserialize the JSON body into the target type: " ++ why.located))
      else
        .error (.badRequest "invalid_json"
          ("Failed to parse the request body as JSON: " ++ why.located)) := by
  have hmedia : ¬(!acceptsMediaType r.mediaType) = true := by
    rw [h.mediaType]
    decide
  unfold Intake.readIntent
  exact (if_neg hmedia).trans (if_neg (Nat.not_lt.mpr h.size))

theorem readIntent_of_wishes (h : r.Wishes i) : readIntent r.mediaType r.body = .ok i := by
  rw [h.readIntent, h.decoded]

theorem readIntent_of_misshapen (h : r.Misshapen) :
    ∃ detail, readIntent r.mediaType r.body = .error ⟨⟨422⟩, "invalid_request", detail⟩ := by
  obtain ⟨why, hwhy, content⟩ := h.content
  rw [h.readIntent, hwhy]
  simp only [content, if_true]
  exact ⟨_, rfl⟩

theorem readIntent_of_unreadable (none : ∀ i, ¬r.Wishes i) (shapely : ¬r.Misshapen) :
    ∃ detail, readIntent r.mediaType r.body = .error ⟨⟨400⟩, "invalid_json", detail⟩ := by
  by_cases hmedia : acceptsMediaType r.mediaType = true
  · by_cases hsize : r.body.length ≤ bodyLimit
    · have readable : r.Readable := ⟨hmedia, hsize⟩
      rw [readable.readIntent]
      cases hrun : intentReader.run r.body with
      | ok i => exact absurd ⟨readable, hrun⟩ (none i)
      | error why =>
          have form : why.fault.isContent = false := by
            rw [← Bool.not_eq_true]
            exact fun content => shapely ⟨readable, why, hrun, content⟩
          simp only [form]
          exact ⟨_, rfl⟩
    · rw [Intake.readIntent, hmedia, Bool.not_true, if_neg Bool.false_ne_true,
        if_pos (Nat.not_le.mp hsize)]
      exact ⟨_, rfl⟩
  · rw [Bool.not_eq_true] at hmedia
    rw [Intake.readIntent, hmedia, Bool.not_false, if_pos rfl]
    exact ⟨_, rfl⟩

end ApiRequest

/-- What becomes of a request to queue a player. -/
structure Atomic (s : Scheduler) (now : Timestamp) (r : ApiRequest) : Prop where
  queued : ∀ i, r.Wishes i →
    (handle s now r).1 = s.submit i ∧ (handle s now r).2.1 = ⟨⟨202⟩, none, none, ""⟩
  misshapen : r.Misshapen → (handle s now r).1 = s ∧
    (handle s now r).2.1.Explains 422 "Unprocessable Entity" "invalid_request"
  unreadable : (∀ i, ¬r.Wishes i) → ¬r.Misshapen → (handle s now r).1 = s ∧
    (handle s now r).2.1.Explains 400 "Bad Request" "invalid_json"

section Request

variable {r : ApiRequest}

private theorem handle_of_queues (h : r.Queues) (s : Scheduler) (now : Timestamp) :
    handle s now r = queuePlayer s r.mediaType r.body := by
  rw [handle, h.route]
  exact if_pos h.method

theorem atomic_of_queues (h : r.Queues) (s : Scheduler) (now : Timestamp) : Atomic s now r := by
  constructor
  · intro i wishes
    rw [handle_of_queues h, queuePlayer, ApiRequest.readIntent_of_wishes wishes]
    exact ⟨rfl, rfl⟩
  · intro misshapen
    obtain ⟨detail, hread⟩ := ApiRequest.readIntent_of_misshapen misshapen
    rw [handle_of_queues h, queuePlayer, hread]
    exact ⟨rfl, Problem.explains ⟨⟨422⟩, "invalid_request", detail⟩ rfl⟩
  · intro none shapely
    obtain ⟨detail, hread⟩ := ApiRequest.readIntent_of_unreadable none shapely
    rw [handle_of_queues h, queuePlayer, hread]
    exact ⟨rfl, Problem.explains ⟨⟨400⟩, "invalid_json", detail⟩ rfl⟩

end Request

/-- What becomes of a body that begins with an object. -/
structure Judged (r : ApiRequest) (o : ObjectText) (rest : List UInt8) : Prop where
  told : ∀ i, Told o.members i → ¬r.Misshapen ∧ ∀ j, r.Wishes j ↔ Blank rest ∧ j = i
  untold : (∀ i, ¬Told o.members i) →
    (∀ m ∈ o.members, m.name ∈ intentFields.names → Legible m.value) → r.Misshapen

theorem judged_of_readable {r : ApiRequest} {o : ObjectText} {ws rest : List UInt8}
    (readable : r.Readable) (blank : Blank ws) (body : r.body = ws ++ (o.bytes ++ rest)) :
    Judged r o rest := by
  constructor
  · intro i told
    have hrun := run_of_told told blank rest
    rw [← body] at hrun
    by_cases hrest : Blank rest
    · rw [if_pos (dropSpace_isEmpty_iff.mpr hrest)] at hrun
      have wishes : r.Wishes i := ⟨readable, hrun⟩
      refine ⟨wishes.not_misshapen, fun j => ⟨fun h => ⟨hrest, h.eq wishes⟩, ?_⟩⟩
      rintro ⟨-, rfl⟩
      exact wishes
    · rw [if_neg (fun h => hrest (dropSpace_isEmpty_iff.mp h))] at hrun
      refine ⟨?_, fun j => ⟨fun h => ?_, fun h => absurd h.1 hrest⟩⟩
      · rintro ⟨-, why, hwhy, content⟩
        rw [hrun] at hwhy
        cases hwhy
        cases content
      · rw [h.decoded] at hrun
        cases hrun
  · intro untold legible
    refine ⟨readable, ?_⟩
    rw [body]
    exact run_of_untold untold legible blank rest

/-! ## Any number of requests -/

def ApiRequest.wish? (r : ApiRequest) : Option Intent :=
  if r.method = "POST" ∧ Route.ofTarget? r.target = some .queue then
    (readIntent r.mediaType r.body).toOption
  else none

/-- What comes to a queue: a request at a moment, or the drain of a tick. -/
inductive Visit where
  | request (now : Timestamp) (r : ApiRequest)
  | drain

/-- What a visit does: the wishes that it drains, and the scheduler after it. -/
def visit (s : Scheduler) : Visit → Option (List Intent) × Scheduler
  | .request now r => (none, (handle s now r).1)
  | .drain => (some s.queue.drain.1, { s with queue := s.queue.drain.2 })

def visitAll : List Visit → Scheduler → List (List Intent) × Scheduler
  | [], s => ([], s)
  | v :: vs, s =>
      let rest := visitAll vs (visit s v).2
      ((visit s v).1.toList ++ rest.1, rest.2)

def Visit.call? : Visit → Option TicketQueue.Call
  | .request _ r => r.wish?.map .submit
  | .drain => some .drain

def drained? : TicketQueue.Reply → Option (List Intent)
  | .drained is => some is
  | _ => none

section Visits

variable {r : ApiRequest} {i : Intent}

theorem wish?_eq_some_iff : r.wish? = some i ↔ r.Queues ∧ r.Wishes i := by
  constructor
  · intro h
    rw [ApiRequest.wish?] at h
    split at h
    · rename_i queues
      refine ⟨⟨queues.1, queues.2⟩, ?_⟩
      by_contra hnone
      have hother : ∀ j, ¬r.Wishes j := by
        intro j hj
        rw [ApiRequest.readIntent_of_wishes hj] at h
        cases h
        exact hnone hj
      by_cases misshapen : r.Misshapen
      · obtain ⟨detail, hread⟩ := ApiRequest.readIntent_of_misshapen misshapen
        rw [hread] at h
        cases h
      · obtain ⟨detail, hread⟩ := ApiRequest.readIntent_of_unreadable hother misshapen
        rw [hread] at h
        cases h
    · cases h
  · rintro ⟨⟨method, route⟩, wishes⟩
    rw [ApiRequest.wish?, if_pos ⟨method, route⟩, ApiRequest.readIntent_of_wishes wishes]
    rfl

theorem fst_handle (s : Scheduler) (now : Timestamp) (r : ApiRequest) :
    (handle s now r).1 = r.wish?.elim s s.submit := by
  by_cases queues : r.Queues
  · rw [handle_of_queues queues, queuePlayer, ApiRequest.wish?,
      if_pos ⟨queues.method, queues.route⟩]
    cases readIntent r.mediaType r.body <;> rfl
  · have hnone : r.wish? = none := if_neg fun h => queues ⟨h.1, h.2⟩
    rw [hnone, handle]
    split
    · rfl
    · rename_i route
      rw [if_neg fun method => queues ⟨method, route⟩]
      rfl
    · split
      · rfl
      · split <;> rfl

theorem visit_of_no_call {v : Visit} (h : v.call? = none) (s : Scheduler) :
    visit s v = (none, s) := by
  cases v with
  | request now r =>
      have hnone : r.wish? = none := Option.map_eq_none_iff.mp h
      rw [visit, fst_handle, hnone]
      rfl
  | drain => cases h

theorem visit_of_call {v : Visit} {c : TicketQueue.Call} (h : v.call? = some c) (s : Scheduler) :
    visit s v = (drained? (s.queue.perform c).1, { s with queue := (s.queue.perform c).2 }) := by
  cases v with
  | request now r =>
      obtain ⟨i, hi, rfl⟩ := Option.map_eq_some_iff.mp h
      rw [visit, fst_handle, hi]
      rfl
  | drain =>
      cases h
      rfl

/-- Visits leave the queue that the accepted wishes and the drains leave, and drain what those
drain. -/
theorem visitAll_eq (vs : List Visit) (s : Scheduler) :
    visitAll vs s =
      ((TicketQueue.performAll (vs.filterMap Visit.call?) s.queue).1.filterMap drained?,
        { s with queue := (TicketQueue.performAll (vs.filterMap Visit.call?) s.queue).2 }) := by
  induction vs generalizing s with
  | nil => rfl
  | cons v vs ih =>
      cases h : v.call? with
      | none =>
          rw [visitAll, visit_of_no_call h, List.filterMap_cons_none h, ih]
          rfl
      | some c =>
          rw [visitAll, visit_of_call h, List.filterMap_cons_some h, ih, TicketQueue.performAll]
          cases hdrained : drained? (s.queue.perform c).1 with
          | none => simp [List.filterMap_cons_none hdrained]
          | some is => simp [List.filterMap_cons_some hdrained]

end Visits

/-! ## One player, many spellings -/

/-- The text that the members of an object name the player by. -/
def NamesPlayer (ms : List Member) (text : List Char) : Prop :=
  ∃ m body, membersNamed "player_id" ms = [m] ∧ m.value = quote body ∧ Spells body text

theorem decode_of_namesPlayer {ms : List Member} {i : Intent} {text : List Char}
    (told : Told ms i) (names : NamesPlayer ms text) :
    Uuid.decode (String.ofList text) = .ok i.player.value := by
  obtain ⟨m, hm, hrun⟩ := told.player
  obtain ⟨m', body, hm', hvalue, spells⟩ := names
  rw [hm] at hm'
  cases hm'
  rw [hvalue, ← List.append_nil (quote body), ← List.nil_append (quote body ++ []),
    PlayerId.reader, run_named_eq_ok_iff spells blank_nil blank_nil] at hrun
  cases hdecode : Uuid.decode (String.ofList text) with
  | ok value =>
      rw [hdecode] at hrun
      injection hrun with hplayer
      rw [← hplayer]
  | error why =>
      rw [hdecode] at hrun
      cases hrun

/-- Two wishes for one player, however the player is spelled, are one entry: the later one in the
place of the earlier one. -/
theorem one_entry {ms ms' : List Member} {i i' : Intent} {cs cs' text text' : List Char}
    (told : Told ms i) (told' : Told ms' i') (names : NamesPlayer ms text)
    (names' : NamesPlayer ms' text') (digits : Uuid.IsDigits cs) (digits' : Uuid.IsDigits cs')
    (same : cs.map Char.toLower = cs'.map Char.toLower) (spelling : Uuid.Spelling cs text)
    (spelling' : Uuid.Spelling cs' text') {q : TicketQueue} (h : q.WellFormed) :
    i.player = i'.player ∧ ((q.submit i).submit i').intents = (q.submit i').intents := by
  obtain ⟨value, hvalue, hvalue'⟩ :=
    Uuid.exists_value_of_spellings digits digits' same spelling spelling'
  rw [decode_of_namesPlayer told names, Except.ok.injEq] at hvalue
  rw [decode_of_namesPlayer told' names', Except.ok.injEq] at hvalue'
  have hplayer : i.player = i'.player := congrArg PlayerId.mk (hvalue.trans hvalue'.symm)
  exact ⟨hplayer, h.intents_submit_submit hplayer⟩

/-- A request to queue a player queues the wish that its body states, or it changes nothing and is
told whether form or content is wrong; of any visits the queue holds what the accepted wishes and
the drains leave. -/
theorem queueing_atomic :
    (∀ (r : ApiRequest), r.Queues → ∀ s now, Atomic s now r) ∧
    (∀ (r : ApiRequest) (o : ObjectText) (ws rest : List UInt8), r.Readable → Blank ws →
      r.body = ws ++ (o.bytes ++ rest) → Judged r o rest) ∧
    (∀ (r : ApiRequest) (v ws rest : List UInt8), r.Readable → IsValue v → Legible v →
      (∀ l : ListText, v ≠ l.bytes) → (∀ lead ms, v ≠ objectBytes lead ms) → Blank ws →
      Blank rest → r.body = ws ++ (v ++ rest) → r.Misshapen) ∧
    (∀ (r : ApiRequest) (i : Intent), r.wish? = some i ↔ r.Queues ∧ r.Wishes i) ∧
    (∀ (vs : List Visit) (s : Scheduler), visitAll vs s =
      ((TicketQueue.performAll (vs.filterMap Visit.call?) s.queue).1.filterMap drained?,
        { s with queue := (TicketQueue.performAll (vs.filterMap Visit.call?) s.queue).2 })) ∧
    ∀ (ms ms' : List Member) (i i' : Intent) (cs cs' text text' : List Char), Told ms i →
      Told ms' i' → NamesPlayer ms text → NamesPlayer ms' text' → Uuid.IsDigits cs →
      Uuid.IsDigits cs' → cs.map Char.toLower = cs'.map Char.toLower → Uuid.Spelling cs text →
      Uuid.Spelling cs' text' → ∀ q : TicketQueue, q.WellFormed →
        i.player = i'.player ∧ ((q.submit i).submit i').intents = (q.submit i').intents := by
  refine ⟨fun r queues => atomic_of_queues queues, fun r o ws rest => judged_of_readable, ?_,
    fun r i => wish?_eq_some_iff, visitAll_eq, ?_⟩
  · intro r v ws rest readable value legible not_list not_object before after body
    refine ⟨readable, ?_⟩
    rw [body]
    exact run_of_scalar value legible not_list not_object before after
  · intro ms ms' i i' cs cs' text text' told told' names names' digits digits' same spelling
      spelling' q h
    exact one_entry told told' names names' digits digits' same spelling spelling' h

section Trial

private def trialMorning : Timestamp where
  date := ⟨2023, 10, 5, by decide, by decide, by decide⟩
  hour := ⟨6, by decide⟩
  minute := ⟨7, by decide⟩
  second := ⟨8, by decide⟩
  nano := ⟨9, by decide⟩

private def trialRequest (body : String) : ApiRequest :=
  ⟨"POST", "/v1/queue", some "application/json", Text.bytes body⟩

private def trialIntake : Scheduler := .new Settings.standard

private def trialWish : ApiRequest :=
  trialRequest "\x7b\"x\":[1], \"player_id\":\"URN:UUID:67E55044-10B1-426F-9247-BB680E5FE0C8\"\x7d"

private def trialMisshape : ApiRequest :=
  trialRequest "\x7b\"player_id\":\"67e5504410b1426f9247bb680e5fe0c8\",\"auto_teleport\":1\x7d"

private def trialTrail : ApiRequest :=
  trialRequest "\x7b\"player_id\":\"67e5504410b1426f9247bb680e5fe0c8\"\x7d \x7d"

private theorem trialRequest_queues (body : String) : (trialRequest body).Queues := by
  have route : Route.ofTarget? "/v1/queue" = some .queue := by decide +kernel
  exact ⟨rfl, route⟩

private theorem trialRequest_readable {body : String} (h : (Text.bytes body).length ≤ bodyLimit) :
    (trialRequest body).Readable := by
  have accepted : acceptsMediaType (some "application/json") = true := by decide +kernel
  exact ⟨accepted, h⟩

private def objection? : Except Failure Intent → Option Bool
  | .ok _ => none
  | .error why => some why.fault.isContent

private theorem exists_of_objection? {outcome : Except Failure Intent} {b : Bool}
    (h : objection? outcome = some b) : ∃ why, outcome = .error why ∧ why.fault.isContent = b := by
  cases outcome with
  | ok i => cases h
  | error why => exact ⟨why, rfl, Option.some.inj h⟩

private theorem trialWish_wishes :
    trialWish.Wishes ⟨⟨0x67e5504410b1426f9247bb680e5fe0c8⟩, false⟩ := by
  have hread : (intentReader.run trialWish.body).toOption =
      some ⟨⟨0x67e5504410b1426f9247bb680e5fe0c8⟩, false⟩ := by decide +kernel
  refine ⟨trialRequest_readable (by decide +kernel), ?_⟩
  cases hrun : intentReader.run trialWish.body with
  | ok i =>
      rw [hrun] at hread
      exact congrArg Except.ok (Option.some.inj hread)
  | error why =>
      rw [hrun] at hread
      cases hread

private theorem trialMisshape_misshapen : trialMisshape.Misshapen := by
  have hread : objection? (intentReader.run trialMisshape.body) = some true := by decide +kernel
  exact ⟨trialRequest_readable (by decide +kernel), exists_of_objection? hread⟩

private theorem trialTrail_unreadable : (∀ i, ¬trialTrail.Wishes i) ∧ ¬trialTrail.Misshapen := by
  have hread : objection? (intentReader.run trialTrail.body) = some false := by decide +kernel
  obtain ⟨why, hwhy, form⟩ := exists_of_objection? hread
  constructor
  · intro i h
    rw [h.decoded] at hwhy
    cases hwhy
  · rintro ⟨-, why', hwhy', content⟩
    rw [hwhy] at hwhy'
    cases hwhy'
    rw [form] at content
    cases content

theorem trial_queueing :
    (handle trialIntake trialMorning trialWish).2.1 = ⟨⟨202⟩, none, none, ""⟩ ∧
    (handle trialIntake trialMorning trialWish).1 =
      trialIntake.submit ⟨⟨0x67e5504410b1426f9247bb680e5fe0c8⟩, false⟩ ∧
    (handle trialIntake trialMorning trialMisshape).2.1.Explains 422 "Unprocessable Entity"
      "invalid_request" ∧
    (handle trialIntake trialMorning trialMisshape).1 = trialIntake ∧
    (handle trialIntake trialMorning trialTrail).2.1.Explains 400 "Bad Request" "invalid_json" ∧
    (handle trialIntake trialMorning trialTrail).1 = trialIntake := by
  obtain ⟨atomic, -⟩ := queueing_atomic
  obtain ⟨queued, answered⟩ :=
    (atomic _ (trialRequest_queues _) trialIntake trialMorning).queued _ trialWish_wishes
  obtain ⟨kept, told⟩ :=
    (atomic _ (trialRequest_queues _) trialIntake trialMorning).misshapen trialMisshape_misshapen
  obtain ⟨kept', told'⟩ :=
    (atomic _ (trialRequest_queues _) trialIntake trialMorning).unreadable
      trialTrail_unreadable.1 trialTrail_unreadable.2
  exact ⟨answered, queued, told, kept, told', kept'⟩

end Trial

end Matchmaking.Intake
