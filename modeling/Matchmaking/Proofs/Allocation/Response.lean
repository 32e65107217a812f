import Mathlib.Data.Nat.Basic
import Matchmaking.Allocation.Response

/-!
# Which answers make an assignment

An answer makes an assignment just if it reports a server with an address whose first port can be
connected to, and the assignment then says of the server what the answer says.
-/

namespace Matchmaking.Allocation

theorem ServerPort.usable?_eq_some_iff {p : ServerPort} {port : UInt16} :
    p.usable? = some port ↔ 1 ≤ p.port.toInt ∧ p.port.toInt = port.toNat := by
  have hlt : port.toNat < 65536 := port.toNat_lt
  unfold usable?
  split
  · rename_i h
    rw [Option.some.injEq, ← UInt16.toNat_inj, UInt16.toNat_ofNat']
    omega
  · rename_i h
    simp only [reduceCtorEq, false_iff]
    omega

theorem Response.assignment_eq_ok_iff {r : Response} {a : Assignment} :
    r.assignment = .ok a ↔ r.state = some .allocated ∧ r.address ≠ "" ∧
      (∃ first rest, r.ports = first :: rest ∧ first.usable? = some a.port) ∧
      r.server = a.server ∧ r.address = a.address ∧
      (r.annotations.get? protocolVersionAnnotation).bind protocolVersion? = a.protocolVersion ∧
      r.annotations.get? versionNameAnnotation = a.versionName := by
  obtain ⟨server, address, port, protocolVersion, versionName⟩ := a
  unfold assignment
  constructor
  · intro h
    split at h
    · cases h
    · rename_i hstate
      by_cases haddress : r.address = ""
      · rw [if_pos haddress] at h
        cases h
      · rw [if_neg haddress] at h
        split at h
        · cases h
        · rename_i first rest hports
          split at h
          · cases h
          · rename_i hport
            cases h
            exact ⟨hstate, haddress, ⟨first, rest, hports, hport⟩, rfl, rfl, rfl, rfl⟩
    · cases h
  · rintro ⟨hstate, haddress, ⟨first, rest, hports, hport⟩, rfl, rfl, rfl, rfl⟩
    simp only [hstate, if_neg haddress, hports, hport]

/-- The server of an assignment has an address and a port that can be connected to. -/
theorem Response.reachable_of_assignment {r : Response} {a : Assignment}
    (h : r.assignment = .ok a) : a.address ≠ "" ∧ 1 ≤ a.port.toNat ∧ a.port.toNat ≤ 65535 := by
  obtain ⟨_, haddress, ⟨first, _, _, hport⟩, _, hsame, _⟩ := assignment_eq_ok_iff.mp h
  obtain ⟨hpos, heq⟩ := ServerPort.usable?_eq_some_iff.mp hport
  have hlt : a.port.toNat < 65536 := a.port.toNat_lt
  exact ⟨hsame ▸ haddress, by omega, by omega⟩

end Matchmaking.Allocation
