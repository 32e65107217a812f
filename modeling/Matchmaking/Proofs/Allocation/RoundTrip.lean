import Mathlib.Algebra.Ring.Int.Defs
import Mathlib.Data.List.Nodup
import Matchmaking.Proofs.Allocation.Partition
import Matchmaking.Proofs.Allocation.Remote
import Matchmaking.Proofs.Match.RoundTrip
import Matchmaking.Proofs.Net.Client

/-!
# Allocation documents are read as they were written

The document that asks for a server says all that the request says, and nothing that could be taken
for an answer.
-/

namespace Matchmaking

open Json Net

/-! ## Labels -/

namespace Labels

def Distinct (labels : Labels) : Prop := (labels.entries.map Prod.fst).Nodup

theorem distinct_empty : empty.Distinct := List.nodup_nil

theorem distinct_single (name value : String) : (single name value).Distinct :=
  List.nodup_singleton name

/-- A name that is not there is set at the end. -/
theorem setEntry_of_notMem {name value : String} {entries : List (String × String)}
    (h : name ∉ entries.map Prod.fst) :
    setEntry name value entries = entries ++ [(name, value)] := by
  induction entries with
  | nil => rfl
  | cons e entries ih =>
      rw [List.map_cons, List.mem_cons, not_or] at h
      rw [setEntry, if_neg (Ne.symm h.1), ih h.2]
      rfl

theorem ofList_of_nodup {entries : List (String × String)} (h : (entries.map Prod.fst).Nodup) :
    ofList entries = ⟨entries⟩ := by
  induction entries using List.reverseRecOn with
  | nil => rfl
  | append_singleton entries e ih =>
      rw [List.map_append, List.nodup_append] at h
      obtain ⟨hentries, -, hdisjoint⟩ := h
      have hnew : e.1 ∉ entries.map Prod.fst := by
        intro hmem
        exact hdisjoint _ hmem e.1 (List.mem_singleton_self _) rfl
      rw [ofList_append_singleton, ih hentries, set, setEntry_of_notMem hnew]

theorem Distinct.carries {labels : Labels} (h : labels.Distinct) :
    Carries reader labels.toJson labels := by
  refine Carries.object ?_ fun o members => reads_iff.mpr ⟨labels.entries, ?_, ?_⟩
  · rw [List.forall_mem_map]
    intro e _
    exact (text_faithful e.2).isValue
  · rw [members, List.forall₂_map_left_iff, List.forall₂_map_left_iff, List.forall₂_same]
    intro e _
    exact ⟨rfl, (text_faithful e.2).run⟩
  · exact (ofList_of_nodup h).symm

theorem get?_single (name value : String) : (single name value).get? name = some value := by
  simp [single, get?]

end Labels

namespace Allocation

/-! ## Parts of a document -/

theorem PlayerRange.faithful : Faithful PlayerRange.toJson PlayerRange.reader := by
  intro p
  refine Carries.object ?_ fun o members => PlayerRange.reads_iff.mpr ?_
  · simp only [List.forall_mem_cons]
    exact ⟨(int64_faithful _).isValue, (int64_faithful _).isValue, by simp⟩
  · rw [members]
    exact ⟨(int64_faithful _).tells rfl, (int64_faithful _).tells rfl⟩

theorem Selector.carries {s : Selector} (labels : s.labels.Distinct) :
    Carries Selector.reader s.toJson s := by
  refine Carries.object ?_ fun o members => Selector.reads_iff.mpr ?_
  · simp only [List.forall_mem_cons]
    exact ⟨labels.carries.isValue, (text_faithful _).isValue, (PlayerRange.faithful _).isValue,
      by simp⟩
  · rw [members]
    exact ⟨labels.carries.tells rfl, (text_faithful _).tells rfl,
      (PlayerRange.faithful _).tells rfl⟩

theorem Metadata.carries {m : Metadata} (labels : m.labels.Distinct)
    (annotations : m.annotations.Distinct) : Carries Metadata.reader m.toJson m := by
  refine Carries.object ?_ fun o members => Metadata.reads_iff.mpr ?_
  · simp only [List.forall_mem_cons]
    exact ⟨labels.carries.isValue, annotations.carries.isValue, by simp⟩
  · rw [members]
    exact ⟨Or.inl (labels.carries.tells rfl), Or.inl (annotations.carries.tells rfl)⟩

theorem Spec.carries {s : Spec} (selectors : ∀ x ∈ s.selectors, x.labels.Distinct)
    (metadata : Carries Metadata.reader s.metadata.toJson s.metadata) :
    Carries Spec.reader s.toJson s := by
  have list : Carries (Reader.list Selector.reader) (.ofList Selector.toJson s.selectors)
      s.selectors := by
    refine Carries.list ?_ Selector.reader_decides
    rw [List.forall₂_map_left_iff, List.forall₂_same]
    intro x hx
    exact Selector.carries (selectors x hx)
  refine Carries.object ?_ fun o members => Spec.reads_iff.mpr ?_
  · simp only [List.forall_mem_cons]
    exact ⟨list.isValue, metadata.isValue, by simp⟩
  · rw [members]
    exact ⟨list.tells rfl, metadata.tells rfl⟩

/-- A document that only says what is wanted. -/
theorem Document.carries {d : Document} {s : Spec} (spec : d.spec = some s)
    (status : d.status = none) (wanted : Carries Spec.reader s.toJson s) :
    Carries Document.reader d.toJson d := by
  obtain ⟨apiVersion, kind, _, _⟩ := d
  obtain rfl := spec
  obtain rfl := status
  refine Carries.object ?_ fun o members => Document.reads_iff.mpr ?_
  · simp only [Value.optional, List.forall_mem_append, List.forall_mem_cons]
    exact ⟨⟨⟨(text_faithful _).isValue, (text_faithful _).isValue, by simp⟩, wanted.isValue,
      by simp⟩, by simp⟩
  · rw [members]
    exact ⟨Or.inl ((text_faithful _).tells rfl), Or.inl ((text_faithful _).tells rfl),
      wanted.mayTell rfl, Or.inl ⟨membersNamed_map rfl, rfl⟩⟩

/-! ## The document of a request -/

theorem Document.carries_ofRequest (r : Request) :
    Carries Document.reader (Document.ofRequest r).toJson (Document.ofRequest r) := by
  refine Document.carries rfl rfl (Spec.carries ?_ ?_)
  · simp only [List.forall_mem_cons]
    exact ⟨Labels.distinct_single _ _, Labels.distinct_single _ _, by simp⟩
  · exact Metadata.carries Labels.distinct_empty (Labels.distinct_single _ _)

theorem run_requestBytes (r : Request) :
    Document.reader.run (RemoteAllocator.requestBytes r) = .ok (Document.ofRequest r) :=
  (Document.carries_ofRequest r).run

/-- A count of 32 bits is no less in 64. -/
theorem toInt_least_forState (r : Request) (serverState : String) :
    (Selector.forState r serverState).players.least.toInt = r.players.toNat := by
  have hlt : r.players.toNat < 2 ^ 32 := r.players.toNat_lt
  exact Int64.toInt_ofNat_of_lt (by omega)

/-- Nothing that a request says is left out of its document. -/
theorem Document.ofRequest_injective : Function.Injective Document.ofRequest := by
  intro r r' h
  obtain ⟨hselectors, hannotations⟩ : [Selector.forState r "Allocated", Selector.forState r "Ready"] =
      [Selector.forState r' "Allocated", Selector.forState r' "Ready"] ∧
      Labels.single matchAnnotation r.matchId.text = .single matchAnnotation r'.matchId.text := by
    simpa [Document.ofRequest] using h
  have hselector := (List.cons.inj hselectors).1
  have hfleet : some r.fleet = some r'.fleet := by
    rw [← Labels.get?_single fleetLabel r.fleet, ← Labels.get?_single fleetLabel r'.fleet]
    exact congrArg (fun s => s.labels.get? fleetLabel) hselector
  have htext : some r.matchId.text = some r'.matchId.text := by
    rw [← Labels.get?_single matchAnnotation, ← Labels.get?_single matchAnnotation r'.matchId.text,
      hannotations]
  have hid : (.ok r.matchId : Except IdError MatchId) = .ok r'.matchId := by
    rw [← Id.parse_text, ← Id.parse_text, Option.some.inj htext]
  have hplayers : (r.players.toNat : Int) = r'.players.toNat := by
    rw [← toInt_least_forState r "Allocated", hselector, toInt_least_forState]
  obtain ⟨fleet, matchId, players⟩ := r
  obtain ⟨fleet', matchId', players'⟩ := r'
  rw [Request.mk.injEq]
  exact ⟨Option.some.inj hfleet, Except.ok.inj hid, UInt32.toNat_inj.mp (Int.ofNat_inj.mp hplayers)⟩

/-- A selector that wants servers of a fleet in a state, with room for so many players or more. -/
structure Selector.Wants (s : Selector) (serverState fleet : String) (count : Nat) : Prop where
  serverState : s.serverState = serverState
  fleet : s.labels.get? "agones.dev/fleet" = some fleet
  least : s.players.least.toInt = min count (2 ^ 32 - 1)
  most : s.players.most.toInt = 2 ^ 63 - 1

/-- What is wanted for a match: a server of the fleet, one in use before one that is not, marked
with the match. -/
structure Spec.AsksFor (s : Spec) (fleet : String) (m : Match) : Prop where
  selectors : ∃ used unused, s.selectors = [used, unused] ∧
    used.Wants "Allocated" fleet m.ticketCount ∧ unused.Wants "Ready" fleet m.ticketCount
  matchId : ∃ text, s.metadata.annotations.get? "matchforge.dev/match-id" = some text ∧
    (Id.parse text : Except IdError MatchId) = .ok m.id

/-- A document says what is wanted for a match, and no more. -/
structure Document.AsksFor (d : Document) (fleet : String) (m : Match) : Prop where
  spec : ∃ s, d.spec = some s ∧ s.AsksFor fleet m
  status : d.status = none

theorem Selector.wants_forState (fleet : String) (m : Match) (serverState : String) :
    (Selector.forState (.forMatch fleet m) serverState).Wants serverState fleet m.ticketCount where
  serverState := rfl
  fleet := Labels.get?_single _ _
  least := by
    rw [toInt_least_forState, Request.toNat_players_forMatch]
    rfl
  most := rfl

theorem Document.asksFor_ofRequest (fleet : String) (m : Match) :
    (Document.ofRequest (.forMatch fleet m)).AsksFor fleet m where
  spec := by
    have used := Selector.wants_forState fleet m "Allocated"
    have unused := Selector.wants_forState fleet m "Ready"
    exact ⟨_, rfl, ⟨_, _, rfl, used, unused⟩, _, Labels.get?_single _ _, Id.parse_text m.id⟩
  status := rfl

/-! ## The document as an answer -/

/-- A service answers with success and with the very document that it was sent. -/
inductive Returns (x : Exchange) : Prop where
  | intro {q : Received} {code : Net.Status} (sent : q ∈ x.received) (post : q.method = "POST")
      (success : code.isSuccess = true) (returned : x.outcome = .ok ⟨code, some q.body⟩)

theorem assignment_of_returns {a : RemoteAllocator} {server : Server} {r : Request}
    (h : Returns (a.exchange server r)) :
    ((a.allocate server r).1 >>= Response.assignment) = .error (.malformed "missing state") := by
  obtain ⟨sent, post, success, returned⟩ := h
  rw [body_of_mem_received_post sent post] at returned
  have noStatus : (Document.ofRequest r).Grants (.error (.malformed "missing state")) :=
    .noState fun _ hstatus => nomatch hstatus
  have hsettles : Settles (a.exchange server r).outcome (.error (.malformed "missing state")) := by
    rw [returned]
    exact .answered success rfl (run_requestBytes r) noStatus
  exact hsettles.bind_assignment

/-- The document that asks for a server is read back as it was written and says all that was
wanted, so no two requests share one. Sent back as an answer, it never makes an assignment. -/
theorem document_tells_match :
    (∀ r, Document.reader.run (RemoteAllocator.requestBytes r) = .ok (Document.ofRequest r)) ∧
    (∀ fleet m, (Document.ofRequest (.forMatch fleet m)).AsksFor fleet m) ∧
    (∀ r r', Document.ofRequest r = Document.ofRequest r' ↔ r = r') ∧
    (∀ r r', RemoteAllocator.requestBytes r = RemoteAllocator.requestBytes r' ↔ r = r') ∧
    ∀ (a : RemoteAllocator) (server : Server) (r : Request), Returns (a.exchange server r) →
      ((a.allocate server r).1 >>= Response.assignment) =
        .error (.malformed "missing state") := by
  refine ⟨run_requestBytes, Document.asksFor_ofRequest, ?_, ?_, ?_⟩
  · intro r r'
    exact Document.ofRequest_injective.eq_iff
  · intro r r'
    constructor
    · intro hbytes
      have hread := run_requestBytes r
      rw [hbytes, run_requestBytes] at hread
      exact Document.ofRequest_injective (Except.ok.inj hread).symm
    · intro h
      rw [h]
  · intro a server r h
    exact assignment_of_returns h

section Mirror

private def mirroredWish : Request := .forMatch "\"\\\u0000" (Match.new ⟨7⟩ "duel")

private def mirrorPortal : RemoteAllocator := ⟨loopbackUrl⟩

private def mirror : Server := loopback ⟨201⟩ (RemoteAllocator.requestBytes mirroredWish)

private theorem returns_sent (body : List UInt8) :
    Returns ⟨[⟨"POST", "/", some "application/json", body⟩], .ok (replyOf ⟨201⟩ (some body))⟩ := by
  have success : (Net.Status.mk 201).isSuccess = true := by decide
  exact .intro (List.mem_singleton_self _) rfl success rfl

private theorem returns_mirrored : Returns (mirrorPortal.exchange mirror mirroredWish) := by
  have final : isFinal ⟨201⟩ none = true := by decide
  rw [RemoteAllocator.exchange, mirrorPortal, mirror, post_loopback final]
  exact returns_sent _

theorem mirror_makes_no_assignment :
    Returns (mirrorPortal.exchange mirror mirroredWish) ∧
    ((mirrorPortal.allocate mirror mirroredWish).1 >>= Response.assignment) =
      .error (.malformed "missing state") := by
  obtain ⟨_, _, _, _, returned⟩ := document_tells_match
  exact ⟨returns_mirrored, returned _ _ _ returns_mirrored⟩

end Mirror

end Allocation

end Matchmaking
