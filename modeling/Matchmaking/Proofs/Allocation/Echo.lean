import Matchmaking.Proofs.Allocation.Remote
import Matchmaking.Proofs.Net.Client

/-!
# What an answer repeats of the request

An answer shares its document with the request, so that the members which say what was wanted are
read with it although nothing in them is used. An answer whose status reports a server is understood
only if those members, too, are of the types that a request has.
-/

namespace Matchmaking.Allocation

open Json Json.Reader Net RemoteAllocator

/-- What a status says to the one who asked. -/
def Status.response (s : Status) : Response where
  state := s.state
  server := s.server
  address := s.address
  ports := s.ports
  annotations := s.metadata.annotations

/-- The members that belong to the request are missing, or each has one value of its type. -/
structure Echoes (ms : List Member) : Prop where
  apiVersion : ∃ t, TellsOr ms "apiVersion" Reader.text "" t
  kind : ∃ t, TellsOr ms "kind" Reader.text "" t
  spec : ∃ s, MayTell ms "spec" Spec.reader s

/-- A successful answer holds an object, in which one member tells a status. -/
inductive Reports : Except ClientError Reply → ObjectText → Status → Prop where
  | intro {code : Net.Status} {o : ObjectText} {s : Status} {before after : List UInt8}
      (success : code.isSuccess = true) (blank : Blank before) (blank' : Blank after)
      (status : Tells o.members "status" Status.reader s) :
      Reports (.ok ⟨code, some (before ++ (o.bytes ++ after))⟩) o s

section Answer

variable {ms : List Member} {o : ObjectText} {d : Document} {s : Status}
  {outcome : Except ClientError Reply}

theorem Status.run_null_ne_ok : Status.reader.run nullBytes ≠ .ok s := by
  intro h
  have hfails : (Status.reader.run nullBytes).isOk = false := by decide +kernel
  rw [h] at hfails
  cases hfails

/-- The status of a document is the one that a member tells, whatever the other members say. -/
theorem Document.Told.status_eq (told : Told ms d) (status : Tells ms "status" Status.reader s) :
    d.status = some s := by
  obtain ⟨m, hm, hs⟩ := status
  rcases told.status with ⟨hnone, _⟩ | ⟨n, hn, hvalue⟩
  · rw [hm] at hnone
    cases hnone
  · rw [hm] at hn
    cases hn
    rcases hvalue with ⟨hnull, _⟩ | ⟨_, t, ht, hread⟩
    · rw [hnull] at hs
      exact absurd hs Status.run_null_ne_ok
    · rw [hs] at hread
      cases hread
      exact ht

theorem Document.response_of_status (h : d.status = some s) : d.response = s.response := by
  rw [response, h]
  rfl

/-- A document with a status is made out just if the members that belong to the request are. -/
theorem Document.exists_told_iff (status : Tells ms "status" Status.reader s) :
    (∃ d, Told ms d) ↔ Echoes ms := by
  constructor
  · rintro ⟨d, told⟩
    exact ⟨⟨_, told.apiVersion⟩, ⟨_, told.kind⟩, _, told.spec⟩
  · rintro ⟨⟨apiVersion, hversion⟩, ⟨kind, hkind⟩, spec, hspec⟩
    obtain ⟨m, hm, hs⟩ := status
    refine ⟨⟨apiVersion, kind, spec, some s⟩, hversion, hkind, hspec, Or.inr ⟨m, hm, Or.inr ?_⟩⟩
    exact ⟨fun hnull => Status.run_null_ne_ok (hnull ▸ hs), s, rfl, hs⟩

private theorem Reports.interpret_of_echoes (h : Reports outcome o s) (echoes : Echoes o.members) :
    interpret outcome = .ok s.response := by
  obtain ⟨success, blank, blank', status⟩ := h
  obtain ⟨d, told⟩ := (Document.exists_told_iff status).mpr echoes
  have hrun := (tellsAnswers.document o _ _ blank blank' d).mpr told
  rw [interpret_of_success success, Option.map_some, hrun]
  exact congrArg _ (Document.response_of_status (told.status_eq status))

private theorem Reports.interpret_of_not_echoes (h : Reports outcome o s)
    (other : ¬Echoes o.members) :
    interpret outcome = .error (.malformed "error decoding response body") := by
  obtain ⟨success, blank, blank', status⟩ := h
  rw [interpret_of_success success, Option.map_some]
  cases hrun : Document.reader.run _ with
  | error why => rfl
  | ok d =>
      have told := (tellsAnswers.document o _ _ blank blank' d).mp hrun
      exact absurd ((Document.exists_told_iff status).mp ⟨d, told⟩) other

variable {a : RemoteAllocator} {server : Server} {r : Request}

theorem Reports.allocate_of_echoes (h : Reports (a.exchange server r).outcome o s)
    (echoes : Echoes o.members) : (a.allocate server r).1 = .ok s.response :=
  h.interpret_of_echoes echoes

theorem Reports.allocate_of_not_echoes (h : Reports (a.exchange server r).outcome o s)
    (other : ¬Echoes o.members) :
    (a.allocate server r).1 = .error (.malformed "error decoding response body") :=
  h.interpret_of_not_echoes other

end Answer

/-- What was wanted is read from an object with the selectors and the metadata of a request, each
selector with its labels, a state and a range in full; only metadata may leave out what it has. -/
structure TellsWishes : Prop where
  spec : ∀ (o : ObjectText) (s : Spec), Spec.reader.run o.bytes = .ok s ↔ Spec.Told o.members s
  selectors : ∀ (l : ListText) ss, (Reader.list Selector.reader).run l.bytes = .ok ss ↔
    List.Forall₂ (fun part s => Selector.reader.run part.value = .ok s) l.parts ss
  selector : ∀ (o : ObjectText) (s : Selector),
    Selector.reader.run o.bytes = .ok s ↔ Selector.Told o.members s
  players : ∀ (o : ObjectText) (p : PlayerRange),
    PlayerRange.reader.run o.bytes = .ok p ↔ PlayerRange.Told o.members p
  metadata : ∀ (o : ObjectText) (m : Metadata),
    Metadata.reader.run o.bytes = .ok m ↔ Metadata.Told o.members m

theorem tellsWishes : TellsWishes where
  spec o _ := (Spec.reader_decides.run_eq_ok_iff_reads o.isValue).trans Spec.reads_iff
  selectors _ _ := Selector.reader_decides.run_list_eq_ok_iff
  selector o _ := (Selector.reader_decides.run_eq_ok_iff_reads o.isValue).trans Selector.reads_iff
  players o _ :=
    (PlayerRange.reader_decides.run_eq_ok_iff_reads o.isValue).trans PlayerRange.reads_iff
  metadata o _ := (Metadata.reader_decides.run_eq_ok_iff_reads o.isValue).trans Metadata.reads_iff

/-- Of an answer that tells a status the response is what the status says, provided that whatever
the answer repeats of the request has the types of a request; otherwise the status is lost. -/
theorem response_hinges_on_echo {a : RemoteAllocator} {server : Server} {r : Request}
    {o : ObjectText} {s : Status} (reports : Reports (a.exchange server r).outcome o s) :
    TellsWishes ∧
    ((a.allocate server r).1 = .ok s.response ↔ Echoes o.members) ∧
    ((a.allocate server r).1 = .error (.malformed "error decoding response body") ↔
      ¬Echoes o.members) := by
  refine ⟨tellsWishes, ?_⟩
  by_cases echoes : Echoes o.members
  · rw [reports.allocate_of_echoes echoes]
    exact ⟨iff_of_true rfl echoes, iff_of_false (fun h => nomatch h) (not_not.mpr echoes)⟩
  · rw [reports.allocate_of_not_echoes echoes]
    exact ⟨iff_of_false (fun h => nomatch h) echoes, iff_of_true rfl echoes⟩

section Trial

private def trialEcho (spec : Value) (value : IsValue spec.bytes) : ObjectText :=
  objectText [("spec", spec), ("status", trialStatus 7031)]
    (List.forall_mem_cons.mpr
      ⟨value, List.forall_mem_singleton.mpr (carries_trialStatus 7031).isValue⟩)

private def trialReport : Status := ⟨some .allocated, "", "10.0.0.1", [⟨"", 7031⟩], .empty⟩

private def trialPortal : RemoteAllocator := ⟨loopbackUrl⟩

private def trialServer (spec : Value) (value : IsValue spec.bytes) : Server :=
  loopback ⟨200⟩ (trialEcho spec value).bytes

private def trialWish : Request := ⟨"lobby", ⟨1⟩, 3⟩

private theorem trial_reports (spec : Value) (value : IsValue spec.bytes) :
    Reports (trialPortal.exchange (trialServer spec value) trialWish).outcome (trialEcho spec value)
      trialReport := by
  have final : isFinal ⟨200⟩ none = true := by decide
  have success : (Net.Status.mk 200).isSuccess = true := by decide
  have reports : Reports (.ok ⟨⟨200⟩, some ([] ++ ((trialEcho spec value).bytes ++ []))⟩)
      (trialEcho spec value) trialReport :=
    .intro success blank_nil blank_nil ((carries_trialStatus 7031).tells rfl)
  rw [List.nil_append, List.append_nil] at reports
  rw [exchange, trialPortal, trialServer, post_loopback final]
  exact reports

private theorem trial_named (spec : Value) (value : IsValue spec.bytes)
    {name : String} {found : List (String × Value)}
    (h : [("spec", spec), ("status", trialStatus 7031)].filter (fun p => p.1 = name) = found) :
    membersNamed name (trialEcho spec value).members = found.map Value.member :=
  membersNamed_map h

private theorem trial_echoes (value : IsValue Value.null.bytes) :
    Echoes (trialEcho .null value).members := by
  have hnull : Value.null.bytes = nullBytes := by decide
  exact {
    apiVersion := ⟨"", Or.inr ⟨trial_named .null value rfl, rfl⟩⟩
    kind := ⟨"", Or.inr ⟨trial_named .null value rfl, rfl⟩⟩
    spec := ⟨none, Or.inr ⟨_, trial_named .null value rfl, Or.inl ⟨hnull, rfl⟩⟩⟩ }

private theorem trial_not_echoes (value : IsValue (Value.object []).bytes) :
    ¬Echoes (trialEcho (.object []) value).members := by
  have hnull : (Value.object []).bytes ≠ nullBytes := by decide
  have hfails : (Spec.reader.run (Value.object []).bytes).isOk = false := by decide +kernel
  have hnamed : membersNamed "spec" (trialEcho (.object []) value).members =
      [Value.member ("spec", .object [])] := trial_named (.object []) value rfl
  intro echoes
  obtain ⟨s, ⟨hnone, _⟩ | ⟨m, hm, hvalue⟩⟩ := echoes.spec
  · rw [hnamed] at hnone
    cases hnone
  · rw [hnamed] at hm
    obtain rfl := List.singleton_injective hm
    rcases hvalue with ⟨h, _⟩ | ⟨_, t, _, hread⟩
    · exact hnull h
    · rw [show Spec.reader.run (Value.object []).bytes = .ok t from hread] at hfails
      cases hfails

private theorem null_isValue : IsValue Value.null.bytes := by
  have hnull : Value.null.bytes = nullBytes := by decide
  rw [hnull]
  exact .null

private theorem empty_isValue : IsValue (Value.object []).bytes := by
  have values : ∀ p ∈ ([] : List (String × Value)), IsValue p.2.bytes := fun p hp => nomatch hp
  rw [← bytes_objectText values]
  exact ObjectText.isValue _

/-- Not only the status counts: a server is lost to an answer that repeats no selectors. -/
theorem not_only_status_counts :
    ¬∀ (a : RemoteAllocator) (server : Server) (r : Request) (o : ObjectText) (s : Status),
      Reports (a.exchange server r).outcome o s → (o.members.map Member.name).Nodup →
        (a.allocate server r).1 = .ok s.response := by
  intro h
  have distinct : ["spec", "status"].Nodup := by decide
  have reports := trial_reports (.object []) empty_isValue
  have hlost := reports.allocate_of_not_echoes (trial_not_echoes empty_isValue)
  rw [h _ _ _ _ _ reports distinct] at hlost
  cases hlost

theorem trial_response :
    (trialPortal.allocate (trialServer .null null_isValue) trialWish).1 =
      .ok ⟨some .allocated, "", "10.0.0.1", [⟨"", 7031⟩], .empty⟩ ∧
    (trialPortal.allocate (trialServer (.object []) empty_isValue) trialWish).1 =
      .error (.malformed "error decoding response body") := by
  obtain ⟨_, understood, _⟩ := response_hinges_on_echo (trial_reports .null null_isValue)
  obtain ⟨_, _, lost⟩ := response_hinges_on_echo (trial_reports (.object []) empty_isValue)
  exact ⟨understood.mpr (trial_echoes null_isValue), lost.mpr (trial_not_echoes empty_isValue)⟩

end Trial

end Matchmaking.Allocation
