import Mathlib.Algebra.GroupWithZero.Nat
import Mathlib.Data.List.Basic
import Matchmaking.Allocation.Assembly

/-!
# Matches partition the drained wishes

Assembly cuts the drained wishes into pieces, loses none and adds none, and the wishes that players
were drained with can be read off the matches again.
-/

namespace Matchmaking

open Time Allocation

/-! ## Pieces -/

section Pieces

variable {α : Type} {size : Nat}

private theorem piecesWithin_congr (hs : 0 < size) {m n : Nat} {xs : List α}
    (hm : xs.length ≤ m) (hn : xs.length ≤ n) :
    piecesWithin size m xs = piecesWithin size n xs := by
  induction m generalizing n xs with
  | zero =>
      rw [List.eq_nil_of_length_eq_zero (Nat.le_zero.mp hm)]
      cases n <;> rfl
  | succ m ih =>
      cases xs with
      | nil => cases n <;> rfl
      | cons x xs =>
          cases n with
          | zero => simp at hn
          | succ n =>
              rw [List.length_cons] at hm hn
              rw [piecesWithin, piecesWithin, ih] <;>
                rw [List.length_drop, List.length_cons] <;> omega

theorem pieces_nil : pieces size ([] : List α) = [] := rfl

theorem pieces_of_ne_nil (hs : 0 < size) {xs : List α} (hx : xs ≠ []) :
    pieces size xs = xs.take size :: pieces size (xs.drop size) := by
  obtain ⟨x, xs, rfl⟩ := List.exists_cons_of_ne_nil hx
  rw [pieces, List.length_cons, piecesWithin, pieces]
  congr 1
  apply piecesWithin_congr hs
  · rw [List.length_drop, List.length_cons]
    omega
  · exact Nat.le_refl _

/-- Induction on the pieces of a list. -/
theorem pieces_induction {motive : List α → Prop} (hs : 0 < size) (nil : motive [])
    (piece : ∀ xs, xs ≠ [] → motive (xs.drop size) → motive xs) (xs : List α) : motive xs := by
  induction h : xs.length using Nat.strongRecOn generalizing xs with
  | _ n ih =>
      by_cases hx : xs = []
      · exact hx ▸ nil
      · have hpos := List.length_pos_iff.mpr hx
        exact piece xs hx (ih _ (by rw [List.length_drop]; omega) _ rfl)

/-- Cutting loses nothing and keeps the order. -/
theorem flatten_pieces (hs : 0 < size) (xs : List α) : (pieces size xs).flatten = xs := by
  induction xs using pieces_induction hs with
  | nil => rfl
  | piece xs hx ih => rw [pieces_of_ne_nil hs hx, List.flatten_cons, ih, List.take_append_drop]

/-- There are as many pieces as it takes, rounded up. -/
theorem length_pieces (hs : 0 < size) (xs : List α) :
    (pieces size xs).length = (xs.length + size - 1) / size := by
  induction xs using pieces_induction hs with
  | nil =>
      simp only [pieces_nil, List.length_nil]
      exact (Nat.div_eq_of_lt (by omega)).symm
  | piece xs hx ih =>
      have hpos := List.length_pos_iff.mpr hx
      rw [pieces_of_ne_nil hs hx, List.length_cons, ih, List.length_drop]
      by_cases hlt : xs.length ≤ size
      · have hlast : xs.length + size - 1 = xs.length - 1 + size := by omega
        have hnone : (xs.length - size + size - 1) / size = 0 := Nat.div_eq_of_lt (by omega)
        rw [hnone, hlast, Nat.add_div_right _ hs, Nat.div_eq_of_lt (by omega)]
      · have hmore : xs.length + size - 1 = xs.length - size + size - 1 + size := by omega
        rw [hmore, Nat.add_div_right _ hs]

/-- Every piece is a part of the list, has an element, and is no longer than wanted. -/
theorem piece_of_mem_pieces (hs : 0 < size) {xs piece : List α} (h : piece ∈ pieces size xs) :
    piece.Sublist xs ∧ piece ≠ [] ∧ piece.length ≤ size := by
  induction xs using pieces_induction hs with
  | nil => cases h
  | piece xs hx ih =>
      rw [pieces_of_ne_nil hs hx, List.mem_cons] at h
      rcases h with rfl | h
      · have hsize : size ≠ 0 := by omega
        refine ⟨List.take_sublist _ _, ?_, List.length_take_le _ _⟩
        rw [ne_eq, List.take_eq_nil_iff, not_or]
        exact ⟨hsize, hx⟩
      · obtain ⟨hsub, hpiece⟩ := ih h
        exact ⟨hsub.trans (List.drop_sublist _ _), hpiece⟩

/-- Only the last piece may be short. -/
theorem length_of_mem_dropLast_pieces (hs : 0 < size) {xs piece : List α}
    (h : piece ∈ (pieces size xs).dropLast) : piece.length = size := by
  induction xs using pieces_induction hs with
  | nil => cases h
  | piece xs hx ih =>
      rw [pieces_of_ne_nil hs hx] at h
      by_cases hrest : xs.drop size = []
      · rw [hrest, pieces_nil] at h
        cases h
      · have hmore : pieces size (xs.drop size) ≠ [] := by
          rw [pieces_of_ne_nil hs hrest]
          exact List.cons_ne_nil _ _
        rw [List.dropLast_cons_of_ne_nil hmore, List.mem_cons] at h
        rcases h with rfl | h
        · rw [List.drop_eq_nil_iff] at hrest
          rw [List.length_take]
          omega
        · exact ih h

example : pieces 3 [1, 2, 3, 4, 5, 6, 7] = [[1, 2, 3], [4, 5, 6], [7]] := rfl

end Pieces

/-! ## Matches -/

/-- A request is sized to the match as far as 32 bits can say it. -/
theorem Allocation.Request.toNat_players_forMatch (fleet : String) (m : Match) :
    (Request.forMatch fleet m).players.toNat = min m.ticketCount Number.mostUnsigned32 := by
  have hmost : Number.mostUnsigned32 < 2 ^ 32 := by decide
  have hle := Nat.min_le_right m.ticketCount Number.mostUnsigned32
  rw [Request.forMatch, UInt32.toNat_ofNat', Nat.mod_eq_of_lt (by omega)]

def gamesOf (pending : List PendingMatch) : List Match := pending.map PendingMatch.game

theorem players_intentsOf (ms : List Match) :
    (intentsOf ms).map Intent.player = ms.flatMap Match.players := by
  have hgame (m : Match) :
      (m.tickets.flatMap fun t => t.players.map fun p => (⟨p, t.autoTeleport⟩ : Intent)).map
        Intent.player = m.players := by
    simp only [Match.players, List.map_flatMap, List.map_map, Function.comp_def, List.map_id']
  simp only [intentsOf, List.map_flatMap, hgame]

namespace Assembler

variable (a : Assembler) (fresh : Nat → MatchId) (made : Nat) (now : Timestamp)

theorem length_assemble (is : List Intent) :
    (a.assemble fresh made now is).length =
      (is.length + a.playersPerMatch - 1) / a.playersPerMatch := by
  rw [assemble, List.length_map, List.length_zipIdx, length_pieces a.playersPerMatch_pos]

theorem mem_assemble {is : List Intent} {p : PendingMatch}
    (h : p ∈ a.assemble fresh made now is) :
    ∃ id, ∃ piece ∈ pieces a.playersPerMatch is, p = a.pend (a.build id now piece) := by
  obtain ⟨⟨piece, k⟩, hpiece, rfl⟩ := List.mem_map.mp h
  exact ⟨fresh (made + k), piece, List.fst_mem_of_mem_zipIdx hpiece, rfl⟩

theorem players_build (id : MatchId) (batch : List Intent) :
    (a.build id now batch).players = batch.map Intent.player := by
  simp only [build, Match.players, Ticket.forPlayer, List.flatMap_map, ← List.map_eq_flatMap]

theorem ticketCount_build (id : MatchId) (batch : List Intent) :
    (a.build id now batch).ticketCount = batch.length := List.length_map _

private theorem wishes_build (id : MatchId) (batch : List Intent) :
    ((a.build id now batch).tickets.flatMap fun t =>
      t.players.map fun p => (⟨p, t.autoTeleport⟩ : Intent)) = batch := by
  induction batch with
  | nil => rfl
  | cons i is ih => exact congrArg (i :: ·) ih

/-- The wishes of the assembled matches are the drained ones, in order. -/
theorem intentsOf_assemble (is : List Intent) :
    intentsOf (gamesOf (a.assemble fresh made now is)) = is := by
  simp only [intentsOf, gamesOf, assemble, List.flatMap_map, pend, wishes_build]
  rw [List.flatMap_def, List.zipIdx_map_fst, flatten_pieces a.playersPerMatch_pos]

theorem map_ticketCount_assemble (is : List Intent) :
    (gamesOf (a.assemble fresh made now is)).map Match.ticketCount =
      (pieces a.playersPerMatch is).map List.length := by
  rw [← List.zipIdx_map_fst 0 (pieces a.playersPerMatch is), List.map_map]
  simp only [gamesOf, assemble, List.map_map, Function.comp_def, pend, ticketCount_build]

/-- Every drained wish has a ticket. -/
theorem sum_ticketCount_assemble (is : List Intent) :
    ((gamesOf (a.assemble fresh made now is)).map Match.ticketCount).sum = is.length := by
  rw [map_ticketCount_assemble, ← List.length_flatten, flatten_pieces a.playersPerMatch_pos]

theorem ticketCount_of_mem_assemble {is : List Intent} {p : PendingMatch}
    (h : p ∈ a.assemble fresh made now is) :
    1 ≤ p.game.ticketCount ∧ p.game.ticketCount ≤ a.playersPerMatch := by
  obtain ⟨id, piece, hpiece, rfl⟩ := mem_assemble a fresh made now h
  obtain ⟨-, hne, hle⟩ := piece_of_mem_pieces a.playersPerMatch_pos hpiece
  change 1 ≤ (a.build id now piece).ticketCount ∧ (a.build id now piece).ticketCount ≤ _
  rw [ticketCount_build]
  exact ⟨List.length_pos_iff.mpr hne, hle⟩

theorem ticketCount_of_mem_dropLast_assemble {is : List Intent} {p : PendingMatch}
    (h : p ∈ (a.assemble fresh made now is).dropLast) :
    p.game.ticketCount = a.playersPerMatch := by
  have hcount : p.game.ticketCount ∈
      ((gamesOf (a.assemble fresh made now is)).map Match.ticketCount).dropLast := by
    rw [gamesOf, List.map_map, ← List.map_dropLast]
    exact List.mem_map_of_mem h
  rw [map_ticketCount_assemble, ← List.map_dropLast, List.mem_map] at hcount
  obtain ⟨piece, hpiece, hlength⟩ := hcount
  rw [← hlength]
  exact length_of_mem_dropLast_pieces a.playersPerMatch_pos hpiece

theorem tickets_assemble (is : List Intent) :
    (gamesOf (a.assemble fresh made now is)).flatMap Match.tickets =
      is.map fun i => Ticket.forPlayer i.player a.gameMode i.autoTeleport now := by
  simp only [gamesOf, assemble, List.flatMap_map, pend, build]
  rw [← List.flatMap_map Prod.fst, List.zipIdx_map_fst, List.flatMap_def, ← List.map_flatten,
    flatten_pieces a.playersPerMatch_pos]

theorem request_of_mem_assemble {is : List Intent} {p : PendingMatch}
    (h : p ∈ a.assemble fresh made now is) : p.request = .forMatch a.fleet p.game := by
  obtain ⟨id, piece, -, rfl⟩ := mem_assemble a fresh made now h
  rfl

/-- What it means to cut wishes into matches of `size` players for a fleet. -/
structure Partitions (fleet gameMode : String) (now : Timestamp) (size : Nat) (is : List Intent)
    (pending : List PendingMatch) : Prop where
  count : pending.length = (is.length + size - 1) / size
  full : ∀ p ∈ pending.dropLast, p.game.ticketCount = size
  last : ∀ p ∈ pending.getLast?, 1 ≤ p.game.ticketCount ∧ p.game.ticketCount ≤ size
  tickets : (gamesOf pending).flatMap Match.tickets =
    is.map fun i => Ticket.forPlayer i.player gameMode i.autoTeleport now
  wishes : intentsOf (gamesOf pending) = is
  requests : ∀ p ∈ pending, p.request.matchId = p.game.id ∧ p.request.fleet = fleet ∧
    p.request.players.toNat = min p.game.ticketCount (2 ^ 32 - 1)

/-- Whatever size is configured, none included, the batches have a size and the wishes are cut
into matches without loss. -/
theorem assemble_partitions (fleet gameMode : String) (size : Nat) (is : List Intent) :
    0 < (new fleet gameMode size).playersPerMatch ∧
    Partitions fleet gameMode now (max 1 size) is
      ((new fleet gameMode size).assemble fresh made now is) := by
  have hsize : max 1 size = (new fleet gameMode size).playersPerMatch := Nat.max_comm 1 size
  refine ⟨playersPerMatch_pos _, ?_⟩
  rw [hsize]
  exact {
    count := length_assemble _ fresh made now is
    full := fun p hp => ticketCount_of_mem_dropLast_assemble _ fresh made now hp
    last := fun p hp =>
      ticketCount_of_mem_assemble _ fresh made now (List.mem_of_getLast? hp)
    tickets := tickets_assemble _ fresh made now is
    wishes := intentsOf_assemble _ fresh made now is
    requests := by
      intro p hp
      rw [request_of_mem_assemble _ fresh made now hp]
      exact ⟨rfl, rfl, Request.toNat_players_forMatch fleet p.game⟩ }

end Assembler

end Matchmaking
