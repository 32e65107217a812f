import Matchmaking.Allocation.Remote
import Matchmaking.Proofs.Allocation.Document
import Matchmaking.Proofs.Allocation.Response
import Matchmaking.Proofs.Json.Render

/-!
# What an allocation service's answers come to

Every exchange with an allocation service ends in an assignment or in an error of one class, by its
status, by the document in its body, and by what the members of that document tell.
-/

namespace Matchmaking.Allocation

open Json Json.Reader Net RemoteAllocator

/-! ## What a document comes to -/

/-- What a document comes to. -/
inductive Document.Grants (d : Document) : Except Error Assignment → Prop where
  | noState (missing : ∀ s, d.status = some s → s.state = none) :
      d.Grants (.error (.malformed "missing state"))
  | otherState {s : Status} {state : State} (status : d.status = some s)
      (state_eq : s.state = some state) (other : state ≠ .allocated) :
      d.Grants (.error (.notAllocated state))
  | noAddress {s : Status} (status : d.status = some s) (allocated : s.state = some .allocated)
      (missing : s.address = "") : d.Grants (.error (.malformed "missing address"))
  | noPort {s : Status} (status : d.status = some s) (allocated : s.state = some .allocated)
      (address : s.address ≠ "") (missing : s.ports = []) :
      d.Grants (.error (.malformed "missing port"))
  | badPort {s : Status} {first : ServerPort} {rest : List ServerPort} (status : d.status = some s)
      (allocated : s.state = some .allocated) (address : s.address ≠ "")
      (ports : s.ports = first :: rest) (bad : ¬(1 ≤ first.port.toInt ∧ first.port.toInt ≤ 65535)) :
      d.Grants (.error (.malformed s!"invalid port {first.port.toInt}"))
  | server {s : Status} {first : ServerPort} {rest : List ServerPort} {port : UInt16}
      (status : d.status = some s) (allocated : s.state = some .allocated)
      (address : s.address ≠ "") (ports : s.ports = first :: rest) (positive : 1 ≤ first.port.toInt)
      (port_eq : first.port.toInt = port.toNat) :
      d.Grants (.ok {
        server := s.server
        address := s.address
        port
        protocolVersion :=
          (s.metadata.annotations.get? protocolVersionAnnotation).bind protocolVersion?
        versionName := s.metadata.annotations.get? versionNameAnnotation })

theorem Document.assignment_of_grants {d : Document} {result : Except Error Assignment}
    (h : d.Grants result) : d.response.assignment = result := by
  unfold response Response.assignment
  cases h with
  | noState missing =>
      cases hstatus : d.status with
      | none => rfl
      | some s => simp only [Option.getD_some, missing s hstatus]
  | @otherState s state status state_eq other =>
      simp only [status, Option.getD_some, state_eq]
  | noAddress status allocated missing =>
      simp only [status, Option.getD_some, allocated, if_pos missing]
  | noPort status allocated address missing =>
      simp only [status, Option.getD_some, allocated, if_neg address, missing]
  | badPort status allocated address ports bad =>
      simp only [status, Option.getD_some, allocated, if_neg address, ports, ServerPort.usable?,
        if_neg bad]
  | server status allocated address ports positive port_eq =>
      have husable := ServerPort.usable?_eq_some_iff.mpr ⟨positive, port_eq⟩
      simp only [status, Option.getD_some, allocated, if_neg address, ports, husable]

/-- Every document comes to something. -/
theorem Document.exists_grants (d : Document) : ∃ result, d.Grants result := by
  cases hstatus : d.status with
  | none => exact ⟨_, .noState fun s hs => nomatch hstatus.symm.trans hs⟩
  | some s =>
      cases hstate : s.state with
      | none =>
          refine ⟨_, .noState fun s' hs => ?_⟩
          obtain rfl := Option.some.inj (hstatus.symm.trans hs)
          exact hstate
      | some state =>
          by_cases hallocated : state = .allocated
          · subst hallocated
            by_cases haddress : s.address = ""
            · exact ⟨_, .noAddress hstatus hstate haddress⟩
            cases hports : s.ports with
            | nil => exact ⟨_, .noPort hstatus hstate haddress hports⟩
            | cons first rest =>
                by_cases hrange : 1 ≤ first.port.toInt ∧ first.port.toInt ≤ 65535
                · have hport : first.port.toInt =
                      (UInt16.ofNat first.port.toInt.toNat).toNat := by
                    rw [UInt16.toNat_ofNat', Nat.mod_eq_of_lt (by omega),
                      Int.toNat_of_nonneg (by omega)]
                  exact ⟨_, .server hstatus hstate haddress hports hrange.1 hport⟩
                · exact ⟨_, .badPort hstatus hstate haddress hports hrange⟩
          · exact ⟨_, .otherState hstatus hstate hallocated⟩

theorem Document.grants_iff {d : Document} {result : Except Error Assignment} :
    d.Grants result ↔ d.response.assignment = result := by
  refine ⟨assignment_of_grants, ?_⟩
  rintro rfl
  obtain ⟨result, h⟩ := d.exists_grants
  rwa [assignment_of_grants h]

/-! ## What an exchange comes to -/

/-- What an exchange comes to. -/
inductive Settles : Except ClientError Reply → Except Error Assignment → Prop where
  | unreached (e : ClientError) : Settles (.error e) (.error (.transport e.message))
  | refused {reply : Reply} (refusal : reply.status.isSuccess = false) :
      Settles (.ok reply) (.error (.transport
        s!"allocator returned {reply.status.text}: {refusalText reply}"))
  | unreadable {reply : Reply} (success : reply.status.isSuccess = true)
      (unread : ∀ body d, reply.body = some body → Document.reader.run body ≠ .ok d) :
      Settles (.ok reply) (.error (.malformed "error decoding response body"))
  | answered {reply : Reply} {body : List UInt8} {d : Document}
      {result : Except Error Assignment} (success : reply.status.isSuccess = true)
      (body_eq : reply.body = some body) (read : Document.reader.run body = .ok d)
      (grants : d.Grants result) : Settles (.ok reply) result

theorem interpret_of_success {reply : Reply} (h : reply.status.isSuccess = true) :
    interpret (.ok reply) = match reply.body.map Document.reader.run with
      | some (.ok d) => .ok d.response
      | _ => .error (.malformed "error decoding response body") := if_pos h

theorem Settles.bind_assignment {outcome : Except ClientError Reply}
    {result : Except Error Assignment} (h : Settles outcome result) :
    (interpret outcome >>= Response.assignment) = result := by
  cases h with
  | unreached e => rfl
  | refused refusal =>
      simp only [interpret, refusal, Bool.false_eq_true, if_false]
      rfl
  | @unreadable reply success unread =>
      rw [interpret_of_success success]
      cases hbody : reply.body with
      | none => rfl
      | some body =>
          rw [Option.map_some]
          cases hread : Document.reader.run body with
          | error why => rfl
          | ok d => exact absurd hread (unread body d hbody)
  | answered success body_eq read grants =>
      rw [interpret_of_success success, body_eq, Option.map_some, read]
      exact Document.grants_iff.mp grants

/-- Every exchange comes to something. -/
theorem exists_settles (outcome : Except ClientError Reply) : ∃ result, Settles outcome result := by
  cases outcome with
  | error e => exact ⟨_, .unreached e⟩
  | ok reply =>
      cases hsuccess : reply.status.isSuccess with
      | false => exact ⟨_, .refused hsuccess⟩
      | true =>
          by_cases hread : ∃ body d, reply.body = some body ∧ Document.reader.run body = .ok d
          · obtain ⟨body, d, hbody, hread⟩ := hread
            obtain ⟨result, grants⟩ := d.exists_grants
            exact ⟨result, .answered hsuccess hbody hread grants⟩
          · refine ⟨_, .unreadable hsuccess fun body d hbody hd => ?_⟩
            exact hread ⟨body, d, hbody, hd⟩

theorem settles_iff {outcome : Except ClientError Reply} {result : Except Error Assignment} :
    Settles outcome result ↔ (interpret outcome >>= Response.assignment) = result := by
  refine ⟨Settles.bind_assignment, ?_⟩
  rintro rfl
  obtain ⟨result, h⟩ := exists_settles outcome
  rwa [h.bind_assignment]

/-! ## What the text of an answer says -/

/-- Readers take from the text of an answer what its members tell: a status or state that is missing
or null is none, other fields that are missing are empty, a state is known by its exact name, a port
is the integer that is written, and of several annotations of a name the last counts. -/
structure TellsAnswers : Prop where
  document : ∀ (o : ObjectText) (before after : List UInt8), Blank before → Blank after → ∀ d,
    Document.reader.run (before ++ (o.bytes ++ after)) = .ok d ↔ Document.Told o.members d
  status : ∀ (o : ObjectText) (s : Status),
    Status.reader.run o.bytes = .ok s ↔ Status.Told o.members s
  state : ∀ v, IsValue v → ∀ state, State.reader.run v = .ok state ↔
    ∃ name, Names v name ∧ State.ofName name = state
  allocated : ∀ name, State.ofName name = .allocated ↔ name = "Allocated"
  ports : ∀ (l : ListText) ps, (Reader.list ServerPort.reader).run l.bytes = .ok ps ↔
    List.Forall₂ (fun part p => ServerPort.reader.run part.value = .ok p) l.parts ps
  port : ∀ (o : ObjectText) (p : ServerPort),
    ServerPort.reader.run o.bytes = .ok p ↔ ServerPort.Told o.members p
  number : ∀ k v, IsInteger k v → ∀ n, Reader.int32.run v = .ok n → n.toInt = k
  metadata : ∀ (o : ObjectText) (m : Metadata),
    Metadata.reader.run o.bytes = .ok m ↔ Metadata.Told o.members m
  annotations : ∀ (o : ObjectText) (labels : Labels),
    Labels.reader.run o.bytes = .ok labels ↔ Labels.Told o.members labels
  annotation : ∀ entries name,
    (Labels.ofList entries).get? name = entries.reverse.lookup name

theorem tellsAnswers : TellsAnswers where
  document o before after blank blank' d :=
    (Document.reader_decides.run_eq_ok_iff o.isValue blank blank').trans Document.reads_iff
  status o s := (Status.reader_decides.run_eq_ok_iff_reads o.isValue).trans Status.reads_iff
  state v value state :=
    (State.reader_decides.run_eq_ok_iff_reads value).trans (State.reads_iff value)
  allocated name := State.ofName_eq_allocated_iff
  ports l ps := ServerPort.reader_decides.run_list_eq_ok_iff
  port o p := (ServerPort.reader_decides.run_eq_ok_iff_reads o.isValue).trans ServerPort.reads_iff
  number k v integer n run := by
    obtain ⟨t, number⟩ := integer.exists_isNumber
    exact toInt_of_reads_int32 integer ((int32_decides.run_eq_ok_iff_reads (.number number)).mp run)
  metadata o m := (Metadata.reader_decides.run_eq_ok_iff_reads o.isValue).trans Metadata.reads_iff
  annotations o labels :=
    (Labels.reader_decides.run_eq_ok_iff_reads o.isValue).trans Labels.reads_iff
  annotation := Labels.get?_ofList

/-- An exchange comes to an assignment only if its document grants a server, and any other lands in
the class of its fault; the document says what is written in the body. -/
theorem answers_settled :
    TellsAnswers ∧
    (∀ outcome result,
      (interpret outcome >>= Response.assignment) = result ↔ Settles outcome result) ∧
    ∀ (a : RemoteAllocator) (server : Server) (r : Request) (result : Except Error Assignment),
      ((a.allocate server r).1 >>= Response.assignment) = result ↔
        Settles (a.exchange server r).outcome result :=
  ⟨tellsAnswers, fun _ _ => settles_iff.symm, fun _ _ _ _ => settles_iff.symm⟩

section Trial

private theorem carries_allocated : Carries State.reader (.text "Allocated") .allocated where
  isValue := (text_faithful "Allocated").isValue
  ne_null := (text_faithful "Allocated").ne_null
  reads := by
    refine (State.reads_iff (text_faithful "Allocated").isValue).mpr ⟨"Allocated", ?_, rfl⟩
    rw [Value.bytes_text]
    exact .text (spells_escaped "Allocated")

private def trialPort (port : Int32) : Value := .object [("port", .integer port.toInt)]

def trialStatus (port : Int32) : Value :=
  .object [
    ("state", .text "Allocated"),
    ("address", .text "10.0.0.1"),
    ("ports", .list [trialPort port])]

private def trialReply (port : Int32) : Value := .object [("status", trialStatus port)]

private theorem carries_trialPort (port : Int32) :
    Carries ServerPort.reader (trialPort port) ⟨"", port⟩ := by
  have number := int32_faithful port
  refine Carries.object ?_ fun o members => ServerPort.reads_iff.mpr ?_
  · exact List.forall_mem_singleton.mpr number.isValue
  · rw [members]
    exact ⟨Or.inr ⟨rfl, rfl⟩, number.tells rfl⟩

theorem carries_trialStatus (port : Int32) :
    Carries Status.reader (trialStatus port)
      ⟨some .allocated, "", "10.0.0.1", [⟨"", port⟩], .empty⟩ := by
  have ports := Carries.list (.cons (carries_trialPort port) .nil) ServerPort.reader_decides
  have address := text_faithful "10.0.0.1"
  refine Carries.object ?_ fun o members => Status.reads_iff.mpr ?_
  · simp only [List.forall_mem_cons]
    exact ⟨carries_allocated.isValue, address.isValue, ports.isValue, by simp⟩
  · rw [members]
    exact ⟨carries_allocated.mayTell rfl, Or.inr ⟨rfl, rfl⟩, Or.inl (address.tells rfl),
      Or.inl (ports.tells rfl), Or.inr ⟨rfl, rfl⟩⟩

private def trialDocument (port : Int32) : Document :=
  ⟨"", "", none, some ⟨some .allocated, "", "10.0.0.1", [⟨"", port⟩], .empty⟩⟩

private theorem carries_trialReply (port : Int32) :
    Carries Document.reader (trialReply port) (trialDocument port) := by
  have status := carries_trialStatus port
  refine Carries.object ?_ fun o members => Document.reads_iff.mpr ?_
  · exact List.forall_mem_singleton.mpr status.isValue
  · rw [members]
    exact ⟨Or.inr ⟨rfl, rfl⟩, Or.inr ⟨rfl, rfl⟩, Or.inl ⟨rfl, rfl⟩, status.mayTell rfl⟩

theorem trial_settled :
    (interpret (.ok ⟨⟨200⟩, some (trialReply 25565).bytes⟩) >>= Response.assignment) =
      .ok ⟨"", "10.0.0.1", 25565, none, none⟩ ∧
    (interpret (.ok ⟨⟨200⟩, some (trialReply 91101).bytes⟩) >>= Response.assignment) =
      .error (.malformed "invalid port 91101") ∧
    ∃ why, (interpret (.ok ⟨⟨503⟩, some (trialReply 25565).bytes⟩) >>= Response.assignment) =
      .error (.transport why) := by
  obtain ⟨_, settled, _⟩ := answers_settled
  have success : (Net.Status.mk 200).isSuccess = true := by decide
  have refusal : (Net.Status.mk 503).isSuccess = false := by decide
  have address : "10.0.0.1" ≠ "" := by decide
  have positive : 1 ≤ (25565 : Int32).toInt := by decide
  have port_eq : (25565 : Int32).toInt = (25565 : UInt16).toNat := by decide
  have bad : ¬(1 ≤ (91101 : Int32).toInt ∧ (91101 : Int32).toInt ≤ 65535) := by decide
  have server : Document.Grants (trialDocument 25565) _ :=
    .server rfl rfl address rfl positive port_eq
  have noServer : Document.Grants (trialDocument 91101) _ := .badPort rfl rfl address rfl bad
  exact ⟨(settled _ _).mpr (.answered success rfl (carries_trialReply 25565).run server),
    (settled _ _).mpr (.answered success rfl (carries_trialReply 91101).run noServer),
    _, (settled _ _).mpr (.refused refusal)⟩

end Trial

end Matchmaking.Allocation
