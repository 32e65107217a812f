import Matchmaking.Allocation.Static
import Matchmaking.Proofs.Allocation.Interpretation

/-!
# Servers made up in turn

An allocator without a fleet counts its calls in 32 bits. The count of a call tells the number in
the server's name and the port, whatever is asked for: a name comes again only after every count
has been used, a port after a thousand calls.
-/

namespace Matchmaking.Allocation

open Text

theorem denotesVersion_toString (v : Int64) : DenotesVersion (toString v.toInt) v := by
  have hsigned : IsSigned v.toInt (toString v.toInt).toList := isSigned_toString v.toInt
  exact ⟨_, isTrimmed_self (isBlank_of_mem_isSigned hsigned), hsigned⟩

/-- The number of the first port of an answer. -/
def Response.firstPort? (r : Response) : Option Int := r.ports.head?.map (·.port.toInt)

namespace StaticAllocator

variable {address : String} {basePort : UInt16} {versions : Option (Int64 × String)}

/-- An allocator for an address and a first port, with versions to report or without. -/
def made (address : String) (basePort : UInt16) : Option (Int64 × String) → StaticAllocator
  | none => new address basePort
  | some (version, name) => (new address basePort).withVersions version name

/-- The answers to requests, one after another. -/
def answers : StaticAllocator → List Request → List Response
  | _, [] => []
  | a, r :: rs =>
    let (next, response, _) := a.allocate r
    response :: next.answers rs

@[simp] theorem calls_made : (made address basePort versions).calls = 0 := by
  cases versions <;> rfl

@[simp] theorem address_made : (made address basePort versions).address = address := by
  cases versions <;> rfl

@[simp] theorem basePort_made : (made address basePort versions).basePort = basePort := by
  cases versions <;> rfl

theorem protocolVersion_made :
    ((made address basePort versions).annotations.get? protocolVersionAnnotation).bind
      protocolVersion? = versions.map Prod.fst := by
  have hother : protocolVersionAnnotation ≠ versionNameAnnotation := by decide
  cases versions with
  | none => rfl
  | some reported =>
      obtain ⟨version, name⟩ := reported
      have htext : protocolVersion? (toString version.toInt) = some version :=
        protocolVersion?_eq_some_iff.mpr (denotesVersion_toString version)
      simp only [made, withVersions, Labels.get?_set, if_neg hother, if_true, Option.bind_some,
        htext, Option.map_some]

theorem versionName_made :
    (made address basePort versions).annotations.get? versionNameAnnotation =
      versions.map Prod.snd := by
  cases versions with
  | none => rfl
  | some reported => simp only [made, withVersions, Labels.get?_set, if_true, Option.map_some]

/-! ## One answer -/

section Answer

variable (a : StaticAllocator) (r : Request) (call : UInt32)

theorem portOf_le : a.portOf call ≤ 65535 := Nat.min_le_right _ _

theorem portOf_pos_iff : 0 < a.portOf call ↔ 0 < a.basePort.toNat ∨ 0 < call.toNat % 1000 := by
  rw [portOf]
  omega

theorem toInt_portOf : (Int32.ofNat (a.portOf call)).toInt = a.portOf call := by
  have hle := a.portOf_le call
  apply Int32.toInt_ofNat_of_lt
  omega

theorem firstPort?_answer : (a.answer r call).firstPort? = some (a.portOf call : Int) := by
  rw [← a.toInt_portOf call]
  rfl

theorem usable_answer_iff :
    (a.answer r call).Usable ↔ a.address ≠ "" ∧ 0 < a.portOf call := by
  have hle := a.portOf_le call
  have hport := a.toInt_portOf call
  constructor
  · intro h
    obtain ⟨first, rest, hports, hpos, -⟩ := h.port
    have hfirst : first = ⟨"default", Int32.ofNat (a.portOf call)⟩ := (List.cons.inj hports).1.symm
    rw [hfirst, hport] at hpos
    exact ⟨h.address, by omega⟩
  · intro h
    refine ⟨rfl, h.1, _, _, rfl, ?_⟩
    rw [hport]
    omega

/-- A server's name ends in the number of its call, after the only hyphen of that end. -/
theorem exists_serverOf (fleet : String) (call : UInt32) : ∃ ds, IsNumeral call.toNat ds ∧
    5 ≤ ds.length ∧ (serverOf fleet call).toList = fleet.toList ++ '-' :: ds := by
  refine ⟨(padded 5 call.toNat).toList, padded_isNumeral 5 call.toNat, ?_, ?_⟩
  · rw [padded, String.toList_ofList, List.length_append, List.length_replicate]
    omega
  · simp only [serverOf, String.toList_append, List.append_assoc]
    rfl

/-- What stands behind the last mark. -/
private theorem eq_of_append_cons_eq {mark : Char} {xs ys ds es : List Char} (hds : mark ∉ ds)
    (hes : mark ∉ es) (h : xs ++ mark :: ds = ys ++ mark :: es) : ds = es := by
  rcases List.append_eq_append_iff.mp h with ⟨as, -, hcons⟩ | ⟨as, -, hcons⟩
  · cases as with
    | nil => exact (List.cons.inj hcons).2
    | cons a as => exact absurd ((List.cons.inj hcons).2 ▸ by simp) hds
  · cases as with
    | nil => exact (List.cons.inj hcons).2.symm
    | cons a as => exact absurd ((List.cons.inj hcons).2 ▸ by simp) hes

/-- Fleets with hyphens and digits in their names are no exception. -/
theorem eq_of_serverOf_eq {fleet fleet' : String} {call call' : UInt32}
    (h : serverOf fleet call = serverOf fleet' call') : call = call' := by
  have hhyphen : ∀ n ds, IsNumeral n ds → '-' ∉ ds := fun n ds hds hmem =>
    absurd (hds.digits '-' hmem) (by decide)
  obtain ⟨ds, hds, -, hserver⟩ := exists_serverOf fleet call
  obtain ⟨ds', hds', -, hserver'⟩ := exists_serverOf fleet' call'
  rw [h, hserver'] at hserver
  have hsame : ds' = ds := eq_of_append_cons_eq (hhyphen _ _ hds') (hhyphen _ _ hds) hserver
  rw [← UInt32.toNat_inj, ← hds.value, ← hds'.value, hsame]

end Answer

/-! ## Runs of calls -/

section Runs

variable {a : StaticAllocator} {requests : List Request}

theorem getElem?_answers (k : Nat) : (a.answers requests)[k]? =
    requests[k]?.map fun r => a.answer r (a.calls + UInt32.ofNat k) := by
  induction requests generalizing a k with
  | nil => rfl
  | cons r rs ih =>
      cases k with
      | zero => simp [answers, allocate]
      | succ k =>
          have hcalls : (a.skip 1).calls + UInt32.ofNat k = a.calls + UInt32.ofNat (k + 1) := by
            rw [UInt32.ofNat_add, UInt32.add_comm (UInt32.ofNat k), ← UInt32.add_assoc]
            rfl
          simp only [answers, allocate, List.getElem?_cons_succ]
          rw [ih, hcalls]
          rfl

theorem length_answers : (a.answers requests).length = requests.length := by
  induction requests generalizing a with
  | nil => rfl
  | cons r rs ih => simpa only [answers, List.length_cons, Nat.add_right_cancel_iff] using ih

theorem getElem?_answers_made {k : Nat} {answer : Response}
    (h : ((made address basePort versions).answers requests)[k]? = some answer) :
    ∃ r, requests[k]? = some r ∧
      answer = (made address basePort versions).answer r (UInt32.ofNat k) := by
  rw [getElem?_answers, calls_made, UInt32.zero_add] at h
  obtain ⟨r, hr, hanswer⟩ := Option.map_eq_some_iff.mp h
  exact ⟨r, hr, hanswer.symm⟩

/-- The answers from a call on, so many of them. -/
def consecutive (start count : Nat) (responses : List Response) : List Response :=
  (responses.drop start).take count

theorem nodup_map_consecutive_iff {β : Type} {f : Response → β} {start count : Nat}
    {responses : List Response} : ((consecutive start count responses).map f).Nodup ↔
      ∀ i j x y, start ≤ i → i < j → j < start + count → responses[i]? = some x →
        responses[j]? = some y → f x ≠ f y := by
  rw [List.Nodup, List.pairwise_map, List.pairwise_iff_getElem]
  simp only [consecutive, List.length_take, List.length_drop, List.getElem_take, List.getElem_drop]
  constructor
  · intro h i j x y hstart hlt hend hx hy
    obtain ⟨hi, rfl⟩ := List.getElem?_eq_some_iff.mp hx
    obtain ⟨hj, rfl⟩ := List.getElem?_eq_some_iff.mp hy
    have hne := h (i - start) (j - start) (by omega) (by omega) (by omega)
    simpa only [Nat.add_sub_cancel' hstart, Nat.add_sub_cancel' (Nat.le_trans hstart (Nat.le_of_lt hlt))]
      using hne
  · intro h i j hi hj hlt
    exact h (start + i) (start + j) _ _ (by omega) (by omega) (by omega)
      (List.getElem?_eq_getElem _) (List.getElem?_eq_getElem _)

theorem toNat_call (k : Nat) : (UInt32.ofNat k).toNat = k % UInt32.size := UInt32.toNat_ofNat'

/-- No two servers have one name until the count of calls starts again. -/
theorem nodup_servers (start : Nat) : ((consecutive start UInt32.size
    ((made address basePort versions).answers requests)).map Response.server).Nodup := by
  rw [nodup_map_consecutive_iff]
  intro i j x y _ hlt hend hx hy hserver
  obtain ⟨r, -, rfl⟩ := getElem?_answers_made hx
  obtain ⟨r', -, rfl⟩ := getElem?_answers_made hy
  have hcall : UInt32.ofNat i = UInt32.ofNat j := eq_of_serverOf_eq hserver
  rw [← UInt32.toNat_inj, toNat_call, toNat_call] at hcall
  simp only [UInt32.size] at hend hcall
  omega

theorem firstPort?_of_getElem? {k : Nat} {answer : Response}
    (h : ((made address basePort versions).answers requests)[k]? = some answer) :
    answer.firstPort? =
      some ((min (basePort.toNat + k % UInt32.size % 1000) 65535 : Nat) : Int) := by
  obtain ⟨r, -, rfl⟩ := getElem?_answers_made h
  rw [firstPort?_answer, portOf, basePort_made, toNat_call]

/-- A thousand calls get a thousand ports if there are as many from the first one on. -/
theorem nodup_ports_iff {start : Nat} (enough : start + 1000 ≤ requests.length)
    (uncounted : start + 1000 ≤ UInt32.size) :
    ((consecutive start 1000 ((made address basePort versions).answers requests)).map
      Response.firstPort?).Nodup ↔ basePort.toNat ≤ 64536 := by
  have hcall : ∀ k, k < start + 1000 → k % UInt32.size = k := fun k hk =>
    Nat.mod_eq_of_lt (Nat.lt_of_lt_of_le hk uncounted)
  have hanswer : ∀ k, k < start + 1000 →
      ∃ x, ((made address basePort versions).answers requests)[k]? = some x := fun k hk =>
    ⟨_, List.getElem?_eq_getElem (by rw [length_answers]; omega)⟩
  rw [nodup_map_consecutive_iff]
  constructor
  · intro h
    by_contra hlarge
    have hoffset : ∀ r < 1000, ∃ k, start ≤ k ∧ k < start + 1000 ∧ k % 1000 = r := fun r hr =>
      ⟨start + (r + 1000 - start % 1000) % 1000, by omega, by omega, by omega⟩
    obtain ⟨i, histart, hiend, hi⟩ := hoffset 998 (by omega)
    obtain ⟨j, hjstart, hjend, hj⟩ := hoffset 999 (by omega)
    obtain ⟨x, hx⟩ := hanswer i hiend
    obtain ⟨y, hy⟩ := hanswer j hjend
    have hsame : x.firstPort? = y.firstPort? := by
      rw [firstPort?_of_getElem? hx, firstPort?_of_getElem? hy, hcall i hiend, hcall j hjend, hi,
        hj, Nat.min_eq_right (by omega), Nat.min_eq_right (by omega)]
    rcases Nat.lt_trichotomy i j with hlt | rfl | hgt
    · exact h i j x y histart hlt hjend hx hy hsame
    · omega
    · exact h j i y x hjstart hgt hiend hy hx hsame.symm
  · intro hsmall i j x y hstart hlt hend hx hy
    rw [firstPort?_of_getElem? hx, firstPort?_of_getElem? hy, hcall i (by omega), hcall j hend,
      Nat.min_eq_left (by omega), Nat.min_eq_left (by omega), ne_eq, Option.some.injEq,
      Int.natCast_inj]
    omega

end Runs

/-- What a call with a number is answered, and what becomes of the answer. -/
structure Turn (address : String) (basePort : UInt16) (versions : Option (Int64 × String))
    (n : Nat) (request : Request) (answer : Response) : Prop where
  server : ∃ ds, IsNumeral n ds ∧ 5 ≤ ds.length ∧
    answer.server.toList = request.fleet.toList ++ '-' :: ds
  port : answer.firstPort? = some ((min (basePort.toNat + n % 1000) 65535 : Nat) : Int)
  assigned : (∃ a, answer.assignment = .ok a) ↔
    address ≠ "" ∧ (0 < basePort.toNat ∨ 0 < n % 1000)
  assignment : ∀ a, answer.assignment = .ok a →
    a.server = answer.server ∧ a.address = address ∧
      a.port.toNat = min (basePort.toNat + n % 1000) 65535 ∧
      a.protocolVersion = versions.map Prod.fst ∧ a.versionName = versions.map Prod.snd

theorem turn_answer (r : Request) (k : Nat) : Turn address basePort versions (k % UInt32.size) r
    ((made address basePort versions).answer r (UInt32.ofNat k)) where
  server := by
    rw [← toNat_call]
    exact exists_serverOf r.fleet (UInt32.ofNat k)
  port := by rw [firstPort?_answer, portOf, basePort_made, toNat_call]
  assigned := by
    rw [Response.exists_assignment_iff, usable_answer_iff, portOf_pos_iff, address_made,
      basePort_made, toNat_call]
  assignment := by
    intro a ha
    obtain ⟨-, -, ⟨first, rest, hports, husable⟩, hserver, haddress, hversion, hname⟩ :=
      Response.assignment_eq_ok_iff.mp ha
    have hfirst : first = ⟨"default", Int32.ofNat _⟩ := (List.cons.inj hports).1.symm
    have hport := (ServerPort.usable?_eq_some_iff.mp husable).2
    rw [hfirst, toInt_portOf, Int.natCast_inj, portOf, basePort_made, toNat_call] at hport
    refine ⟨hserver.symm, ?_, hport.symm, ?_, ?_⟩
    · rw [← haddress]
      exact address_made
    · rw [← hversion]
      exact protocolVersion_made
    · rw [← hname]
      exact versionName_made

/-- The calls of an allocator are numbered modulo the count of 32-bit numbers, and the number of a
call tells its server and its port: servers have different names until the numbers start again, and
a thousand calls before that have different ports just if no port is cut off. -/
theorem answered_in_turn (address : String) (basePort : UInt16)
    (versions : Option (Int64 × String)) (requests : List Request) :
    let answers := (made address basePort versions).answers requests
    answers.length = requests.length ∧
    (∀ k request answer, requests[k]? = some request → answers[k]? = some answer →
      Turn address basePort versions (k % UInt32.size) request answer) ∧
    (∀ start, ((consecutive start UInt32.size answers).map Response.server).Nodup) ∧
    ∀ start, start + 1000 ≤ requests.length → start + 1000 ≤ UInt32.size →
      (((consecutive start 1000 answers).map Response.firstPort?).Nodup ↔
        basePort.toNat ≤ 64536) := by
  refine ⟨length_answers, ?_, nodup_servers, fun _ => nodup_ports_iff⟩
  intro k request answer hrequest hanswer
  obtain ⟨r, hr, rfl⟩ := getElem?_answers_made hanswer
  rw [hrequest, Option.some.injEq] at hr
  exact hr ▸ turn_answer request k

/-! ### Fleets whose names look like servers, and ports that are cut off -/

private def trialRequests : List Request :=
  ⟨"lobby-00001", ⟨0⟩, 1⟩ :: List.replicate 999 ⟨"lobby", ⟨0⟩, 1⟩

private theorem trial_getElem? : trialRequests[1]? = some ⟨"lobby", ⟨0⟩, 1⟩ := rfl

/-- The first port of all is none that can be connected to. -/
theorem trial_turns :
    let answers := (made "10.0.0.9" 0 (some (Int64.minValue, ""))).answers trialRequests
    (∀ x, answers[0]? = some x → ¬∃ a, x.assignment = .ok a) ∧
    (∃ x a, answers[1]? = some x ∧ x.assignment = .ok a ∧ a.port.toNat = 1 ∧
      a.protocolVersion = some Int64.minValue ∧ a.versionName = some "") ∧
    ((consecutive 0 1000 answers).map Response.firstPort?).Nodup ∧
    ¬((consecutive 0 1000 ((made "" 64537 none).answers trialRequests)).map
      Response.firstPort?).Nodup := by
  have hlength : trialRequests.length = 1000 := by
    rw [trialRequests, List.length_cons, List.length_replicate]
  obtain ⟨hanswers, hturn, -, hports⟩ :=
    answered_in_turn "10.0.0.9" 0 (some (Int64.minValue, "")) trialRequests
  obtain ⟨-, -, -, hports'⟩ := answered_in_turn "" 64537 none trialRequests
  refine ⟨?_, ?_, (hports 0 (by omega) (by decide)).mpr (by decide),
    (hports' 0 (by omega) (by decide)).not.mpr (by decide)⟩
  · intro x hx
    have turn := hturn 0 _ x rfl hx
    rw [turn.assigned]
    decide
  · obtain ⟨x, hx⟩ : ∃ x, ((made "10.0.0.9" 0 (some (Int64.minValue, ""))).answers
        trialRequests)[1]? = some x := ⟨_, List.getElem?_eq_getElem (by omega)⟩
    have turn := hturn 1 _ x trial_getElem? hx
    obtain ⟨a, ha⟩ := turn.assigned.mpr ⟨by decide, by decide⟩
    obtain ⟨-, -, hport, hversion, hname⟩ := turn.assignment a ha
    exact ⟨x, a, hx, ha, hport, hversion, hname⟩

end StaticAllocator

end Matchmaking.Allocation
