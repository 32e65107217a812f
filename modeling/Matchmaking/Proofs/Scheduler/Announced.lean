import Matchmaking.Proofs.Allocation.Response
import Matchmaking.Proofs.Scheduler.Coherence

/-!
# What is announced

Every match that the notifier is told of has a server that can be reached and the wishes that its
players were drained with, and was asked for with a request of its own size. No player is in two
matches of a tick.
-/

namespace Matchmaking

open Allocation Number Entries

/-- What is asked of a match that is announced in a tick. -/
structure TickRecord.Announceable (settings : Settings) (t : TickRecord) (m : Match) : Prop where
  server : ∃ a, m.assignment = some a ∧ a.address ≠ "" ∧ 1 ≤ a.port.toNat ∧ a.port.toNat ≤ 65535
  size : 1 ≤ m.ticketCount ∧ m.ticketCount ≤ max settings.playersPerMatch 1
  gameMode : m.gameMode = settings.gameMode
  /-- Every ticket is one player's, with the wish that the player had when the queue was drained. -/
  tickets : ∀ k ∈ m.tickets,
    (∃ p, k.players = [p] ∧ t.found.wishes[p]? = some k.autoTeleport) ∧
    k.gameMode = settings.gameMode ∧ k.dequeueOnDisconnect = false ∧ k.inPendingMatch = false
  players : m.players.Nodup
  /-- One request carried the match's identifier, and it asked for room for its players. -/
  request : ∃ p ∈ t.batch, (∃ a, m = p.game.assign a) ∧
    (∀ q ∈ t.batch, q.request.matchId = m.id ↔ q = p) ∧
    p.request.players.toNat = m.players.length

namespace TickRecord

section

variable {settings : Settings} {t : TickRecord} {m : Match} {p : PendingMatch}

theorem Sound.exists_piece (h : t.Sound settings) (hp : p ∈ t.batch) :
    ∃ id now, ∃ piece ∈ pieces (max settings.playersPerMatch 1) t.drained,
      p = settings.assembler.pend (settings.assembler.build id now piece) := by
  obtain ⟨fresh, made, now, hbatch⟩ := h.batch
  rw [hbatch] at hp
  obtain ⟨id, piece, hpiece, rfl⟩ := Assembler.mem_assemble _ _ _ _ hp
  exact ⟨id, now, piece, hpiece, rfl⟩

theorem Sound.eq_of_matchId_eq (h : t.Sound settings) {q : PendingMatch} (hp : p ∈ t.batch)
    (hq : q ∈ t.batch) (hid : q.request.matchId = p.game.id) : q = p := by
  have hids : (t.batch.map fun p => p.game.id).Nodup := by
    simpa only [games, gamesOf, List.map_map, Function.comp_def] using h.distinct
  obtain ⟨id, now, piece, _, rfl⟩ := h.exists_piece hq
  exact List.inj_on_of_nodup_map hids hq hp hid

theorem Sound.announceable (h : t.Sound settings)
    (small : settings.playersPerMatch ≤ mostUnsigned32) (hm : m ∈ placed t.ends) :
    t.Announceable settings m := by
  obtain ⟨e, he, a, ha, rfl⟩ := mem_placed_iff.mp hm
  obtain ⟨r, _, hr⟩ := Outcome.result_eq_ok_iff.mp ha
  obtain ⟨p, hp, hgame⟩ := List.mem_map.mp (h.ended_subset (List.mem_map_of_mem he))
  obtain ⟨id, now, piece, hpiece, hbuilt⟩ := h.exists_piece hp
  obtain ⟨hsub, hne, hle⟩ := piece_of_mem_pieces (Nat.le_max_right _ 1) hpiece
  have hmade : e.game = settings.assembler.build id now piece := by
    rw [← hgame, hbuilt]
    rfl
  have hcount : e.game.ticketCount = piece.length := by
    rw [hmade, Assembler.ticketCount_build]
  have hplayers : e.game.players = piece.map Intent.player := by
    rw [hmade, Assembler.players_build]
  have hpos : 0 < piece.length := List.length_pos_iff.mpr hne
  constructor
  case server => exact ⟨a, rfl, r.reachable_of_assignment hr⟩
  case size =>
    change 1 ≤ e.game.ticketCount ∧ e.game.ticketCount ≤ _
    omega
  case gameMode =>
    change e.game.gameMode = _
    rw [hmade]
    rfl
  case tickets =>
    intro k hk
    change k ∈ e.game.tickets at hk
    rw [hmade] at hk
    obtain ⟨i, hi, rfl⟩ := List.mem_map.mp hk
    have hwish := h.found.mem_intents_iff.mp (hsub.subset hi)
    exact ⟨⟨i.player, rfl, hwish⟩, rfl, rfl, rfl⟩
  case players =>
    change e.game.players.Nodup
    rw [hplayers]
    exact h.nodup_drained.sublist (hsub.map _)
  case request =>
    have hwidth : max settings.playersPerMatch 1 ≤ mostUnsigned32 :=
      Nat.max_le.mpr ⟨small, by decide⟩
    have hfits : e.game.ticketCount ≤ mostUnsigned32 := by omega
    have hrequest : p.request = .forMatch settings.fleet e.game := by
      rw [hmade, hbuilt]
      rfl
    refine ⟨p, hp, ⟨a, by rw [hgame]⟩, fun q hq => ⟨?_, ?_⟩, ?_⟩
    · intro hid
      exact h.eq_of_matchId_eq hp hq (hgame ▸ hid)
    · rintro rfl
      rw [hrequest]
      rfl
    · change p.request.players.toNat = e.game.players.length
      rw [hrequest, Request.toNat_players_forMatch, Nat.min_eq_left hfits, hcount, hplayers,
        List.length_map]

/-- Matches of a tick that got a server share no player. -/
theorem Sound.nodup_players_placed (h : t.Sound settings) :
    ((placed t.ends).flatMap Match.players).Nodup := by
  have hgames : ((intentsOf t.games).map Intent.player).Nodup := by
    rw [h.intentsOf_games]
    exact h.nodup_drained
  have hended := nodup_players_intentsOf hgames h.ended_nodup h.ended_subset
  rw [players_intentsOf, List.flatMap_def] at hended
  rw [List.flatMap_def]
  exact hended.sublist (map_placed_sublist Match.players (fun _ _ => rfl) t.ends).flatten

end

end TickRecord

namespace Course

section

variable {settings : Settings} {c : Course} {t : TickRecord}

/-- What has been announced in a tick is what got a server, as far as the tick has come. -/
theorem Coherent.told_prefix (h : c.Coherent settings) (ht : t ∈ c.ticks) :
    t.told.map Prod.fst <+: placed t.ends := by
  cases hc : c.ticks with
  | nil =>
      rw [hc] at ht
      cases ht
  | cons u past =>
      have hpast := h.past
      rw [hc] at ht hpast
      rcases List.mem_cons.mp ht with rfl | ht
      · cases h.stage with
        | new _ ticks =>
            rw [hc] at ticks
            cases ticks
        | waiting _ ticks _ untold =>
            rw [hc] at ticks
            cases ticks
            rw [untold]
            exact List.nil_prefix
        | announcing _ ticks _ told =>
            rw [hc] at ticks
            cases ticks
            exact ⟨_, told⟩
        | rest _ ticks complete =>
            rw [hc] at ticks
            cases ticks
            exact complete.told_eq ▸ List.prefix_rfl
      · exact (hpast t ht).told_eq ▸ List.prefix_rfl

/-- In every run, every match that has been announced in a tick or is left to be announced has a
server with an address and a port, at least one ticket and no more than the settings allow, one
player a ticket and no player twice, all with the wishes that were drained. The request for it
carried its identifier and asked for room for its players. The matches of one tick share no
player. -/
theorem announced_wellFormed (h : Reachable settings c)
    (small : settings.playersPerMatch ≤ mostUnsigned32) :
    (∀ t ∈ c.ticks, (∀ m ∈ t.told.map Prod.fst, t.Announceable settings m) ∧
      ((t.told.map Prod.fst).flatMap Match.players).Nodup) ∧
    ∀ since stats left, c.scheduler.phase = .announcing since stats left →
      ∃ t past, c.ticks = t :: past ∧ (∀ m ∈ left, t.Announceable settings m) ∧
        ((t.told.map Prod.fst ++ left).flatMap Match.players).Nodup := by
  have hcoherent := h.coherent
  constructor
  · intro t ht
    have hsound := hcoherent.sound t ht
    have htold := hcoherent.told_prefix ht
    refine ⟨fun m hm => hsound.announceable small (htold.subset hm), ?_⟩
    exact hsound.nodup_players_placed.sublist (htold.sublist.flatMap _)
  · intro since stats left phase
    obtain ⟨t, past, ticks, _, told, _⟩ := hcoherent.of_announcing phase
    have hsound := hcoherent.sound t (ticks ▸ List.mem_cons_self)
    refine ⟨t, past, ticks, fun m hm => hsound.announceable small ?_, ?_⟩
    · rw [← told]
      exact List.mem_append_right _ hm
    · rw [told]
      exact hsound.nodup_players_placed

/-- The match that got a server was announced with the one player that was drained for it. -/
theorem trial_announced :
    trialSettings.playersPerMatch ≤ mostUnsigned32 ∧
      trialTick.Announceable trialSettings ((trialGame 0 true).assign trialServer) := by
  have small : trialSettings.playersPerMatch ≤ mostUnsigned32 := by decide
  refine ⟨small, ?_⟩
  have hticks := (announced_wellFormed trial_reachable.1 small).1 trialTick (by
    rw [trial_ticks]
    exact List.mem_cons_self)
  exact hticks.1 _ List.mem_cons_self

end

end Course

end Matchmaking
