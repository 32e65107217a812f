import Matchmaking.Proofs.Allocation.Response
import Matchmaking.Proofs.Text.Blank
import Matchmaking.Proofs.Text.Numeral

/-!
# How an allocator's answer is interpreted

The requirements on an answer are judged in a fixed order, and the first that is not met gives the
error. What an assignment says of versions is a matter of two annotations and never an error.
-/

namespace Matchmaking.Allocation

open Text Number

/-- The first requirement that an answer does not meet, as the error that it gives. -/
inductive Response.Lacks (r : Response) : Error → Prop where
  | state (state : r.state = none) : r.Lacks (.malformed "missing state")
  | allocated {s : State} (state : r.state = some s) (other : s ≠ .allocated) :
      r.Lacks (.notAllocated s)
  | address (state : r.state = some .allocated) (address : r.address = "") :
      r.Lacks (.malformed "missing address")
  | port (state : r.state = some .allocated) (address : r.address ≠ "") (ports : r.ports = []) :
      r.Lacks (.malformed "missing port")
  | range {first : ServerPort} {rest : List ServerPort} (state : r.state = some .allocated)
      (address : r.address ≠ "") (ports : r.ports = first :: rest)
      (range : ¬(1 ≤ first.port.toInt ∧ first.port.toInt ≤ 65535)) :
      r.Lacks (.malformed s!"invalid port {first.port.toInt}")

/-- An integer of 64 bits in decimal, with or without a sign, and blanks around it aside. -/
def DenotesVersion (text : String) (v : Int64) : Prop :=
  ∃ mid, IsTrimmed text.toList mid ∧ IsSigned v.toInt mid

theorem protocolVersion?_eq_some_iff {text : String} {v : Int64} :
    protocolVersion? text = some v ↔ DenotesVersion text v := by
  have hlt : v.toInt < 9223372036854775808 := v.toInt_lt
  have hge : -9223372036854775808 ≤ v.toInt := v.le_toInt
  unfold protocolVersion? DenotesVersion
  constructor
  · intro h
    cases hread : readInt mostSigned64 (trimChars text.toList) with
    | error why =>
        rw [hread] at h
        cases h
    | ok k =>
        obtain ⟨hsigned, hmin, hmax⟩ := readInt_eq_ok_iff.mp hread
        rw [hread, Option.some.injEq] at h
        have hk : v.toInt = k := by
          rw [← h]
          apply Int64.toInt_ofInt_of_le
          · simp only [mostSigned64] at hmin
            omega
          · simp only [mostSigned64] at hmax
            omega
        exact ⟨_, isTrimmed_trimChars _, hk ▸ hsigned⟩
  · intro h
    obtain ⟨mid, htrimmed, hsigned⟩ := h
    have hread : readInt mostSigned64 (trimChars text.toList) = .ok v.toInt := by
      rw [trimChars_of_isTrimmed htrimmed, readInt_eq_ok_iff]
      simp only [mostSigned64]
      exact ⟨hsigned, by omega, by omega⟩
    rw [hread]
    simp

namespace Response

variable {r : Response}

theorem assignment_of_lacks {e : Error} (h : r.Lacks e) : r.assignment = .error e := by
  unfold assignment
  cases h with
  | state state => rw [state]
  | @allocated s state other => cases s <;> simp_all
  | address state address => simp [state, address]
  | port state address ports => simp [state, address, ports]
  | range state address ports range => simp [state, address, ports, ServerPort.usable?, range]

/-- What an answer must be for an assignment to be made of it. -/
structure Usable (r : Response) : Prop where
  state : r.state = some .allocated
  address : r.address ≠ ""
  port : ∃ first rest, r.ports = first :: rest ∧
    1 ≤ first.port.toInt ∧ first.port.toInt ≤ 65535

/-- An answer can be used or lacks something. -/
theorem usable_or_lacks (r : Response) : r.Usable ∨ ∃ e, r.Lacks e := by
  cases hstate : r.state with
  | none => exact Or.inr ⟨_, .state hstate⟩
  | some s =>
      by_cases hallocated : s = .allocated
      · subst hallocated
        by_cases haddress : r.address = ""
        · exact Or.inr ⟨_, .address hstate haddress⟩
        · cases hports : r.ports with
          | nil => exact Or.inr ⟨_, .port hstate haddress hports⟩
          | cons first rest =>
              by_cases hrange : 1 ≤ first.port.toInt ∧ first.port.toInt ≤ 65535
              · exact Or.inl ⟨hstate, haddress, first, rest, hports, hrange⟩
              · exact Or.inr ⟨_, .range hstate haddress hports hrange⟩
      · exact Or.inr ⟨_, .allocated hstate hallocated⟩

theorem exists_assignment_iff : (∃ a, r.assignment = .ok a) ↔ r.Usable := by
  constructor
  · intro h
    obtain ⟨a, ha⟩ := h
    rcases r.usable_or_lacks with husable | ⟨e, hlacks⟩
    · exact husable
    · rw [assignment_of_lacks hlacks] at ha
      cases ha
  · intro h
    obtain ⟨first, rest, hports, hrange⟩ := h.port
    have husable : first.usable? = some (UInt16.ofNat first.port.toInt.toNat) := if_pos hrange
    simp only [assignment, h.state, if_neg h.address, hports, husable]
    exact ⟨_, rfl⟩

theorem assignment_eq_error_iff {e : Error} : r.assignment = .error e ↔ r.Lacks e := by
  constructor
  · intro h
    rcases r.usable_or_lacks with husable | ⟨e', hlacks⟩
    · obtain ⟨a, ha⟩ := exists_assignment_iff.mpr husable
      rw [ha] at h
      cases h
    · rw [assignment_of_lacks hlacks] at h
      cases h
      exact hlacks
  · exact assignment_of_lacks

/-- Ports after the first do not matter. -/
theorem assignment_of_ports {first : ServerPort} {rest : List ServerPort}
    (h : r.ports = first :: rest) (others : List ServerPort) :
    { r with ports := first :: others }.assignment = r.assignment := by
  simp only [assignment, h]

/-- An answer makes an assignment just if it can be used, and then the assignment says what the
answer says; any other answer gives the error of the first requirement that it does not meet. -/
theorem assignment_decided (r : Response) :
    ((∃ a, r.assignment = .ok a) ↔
      r.state = some .allocated ∧ r.address ≠ "" ∧ ∃ first rest, r.ports = first :: rest ∧
        1 ≤ first.port.toInt ∧ first.port.toInt ≤ 65535) ∧
    (∀ a, r.assignment = .ok a →
      a.server = r.server ∧ a.address = r.address ∧
      (∃ first rest, r.ports = first :: rest ∧ first.port.toInt = a.port.toNat) ∧
      (∀ v, a.protocolVersion = some v ↔
        ∃ text, r.annotations.get? "agones.dev/sdk-emc-protocol-version" = some text ∧
          DenotesVersion text v) ∧
      a.versionName = r.annotations.get? "agones.dev/sdk-emc-version-name") ∧
    (∀ first rest others, r.ports = first :: rest →
      { r with ports := first :: others }.assignment = r.assignment) ∧
    (∀ e, r.assignment = .error e ↔ r.Lacks e) ∧
    ∀ s, r.assignment = .error (.notAllocated s) ↔ r.state = some s ∧ s ≠ .allocated := by
  refine ⟨?_, ?_, fun first rest others h => assignment_of_ports h others,
    fun e => assignment_eq_error_iff, ?_⟩
  · rw [exists_assignment_iff]
    exact ⟨fun h => ⟨h.state, h.address, h.port⟩, fun h => ⟨h.1, h.2.1, h.2.2⟩⟩
  · intro a ha
    obtain ⟨_, _, ⟨first, rest, hports, husable⟩, hserver, haddress, hversion, hname⟩ :=
      assignment_eq_ok_iff.mp ha
    have hport := (ServerPort.usable?_eq_some_iff.mp husable).2
    refine ⟨hserver.symm, haddress.symm, ⟨first, rest, hports, hport⟩, ?_, hname.symm⟩
    intro v
    rw [← hversion, Option.bind_eq_some_iff]
    simp only [protocolVersion?_eq_some_iff]
    rfl
  · intro s
    rw [assignment_eq_error_iff]
    constructor
    · intro h
      cases h with
      | allocated state other => exact ⟨state, other⟩
    · intro h
      exact .allocated h.1 h.2

/-! ### The least version and the last port -/

private def edgeAnswer : Response where
  state := some .allocated
  server := ""
  address := "10.0.0.1"
  ports := [⟨"game", 65535⟩, ⟨"query", 0⟩]
  annotations := .single protocolVersionAnnotation " -9223372036854775808\n"

private theorem edge_version : DenotesVersion " -9223372036854775808\n" Int64.minValue :=
  protocolVersion?_eq_some_iff.mp (by decide)

/-- Of several faults the first in order is reported. -/
theorem edge_assignment :
    (∃ a, edgeAnswer.assignment = .ok a ∧ a.protocolVersion = some Int64.minValue) ∧
    { edgeAnswer with ports := [⟨"game", 65535⟩] }.assignment = edgeAnswer.assignment ∧
    { edgeAnswer with address := "", ports := [⟨"game", 65536⟩] }.assignment =
      .error (.malformed "missing address") ∧
    { edgeAnswer with state := some .contention, address := "" }.assignment =
      .error (.notAllocated .contention) := by
  have address : edgeAnswer.address ≠ "" := by decide
  obtain ⟨made, told, first, _⟩ := assignment_decided edgeAnswer
  obtain ⟨a, ha⟩ := made.mpr ⟨rfl, address, _, _, rfl, by decide⟩
  have version := ((told a ha).2.2.2.1 Int64.minValue).mpr ⟨_, by decide, edge_version⟩
  obtain ⟨_, _, _, lacks, _⟩ :=
    assignment_decided { edgeAnswer with address := "", ports := [⟨"game", 65536⟩] }
  obtain ⟨_, _, _, _, refused⟩ :=
    assignment_decided { edgeAnswer with state := some .contention, address := "" }
  exact ⟨⟨a, ha, version⟩, first _ _ [] rfl, (lacks _).mpr (.address rfl rfl),
    (refused .contention).mpr ⟨rfl, by decide⟩⟩

end Response

end Matchmaking.Allocation
