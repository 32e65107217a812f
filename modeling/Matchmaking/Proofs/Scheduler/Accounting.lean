import Matchmaking.Proofs.Scheduler.Coherence

/-!
# The numbers of a tick

Every tick ends, however its tasks end and however its announcements go, and the numbers it
publishes are those of what has happened in it.
-/

namespace Matchmaking

open Time Allocation Entries

namespace TickRecord

variable {settings : Settings} {t : TickRecord}

/-- Of the players of failed matches, those who have not asked again are put back. -/
theorem Sound.length_givenBack_requeue (h : t.Sound settings) :
    (t.givenBack .requeue).length =
      ((unplaced t.ends).flatMap Match.players).countP (· ∉ t.during.map Intent.player) := by
  rw [h.givenBack_requeue, ← List.countP_eq_length_filter, ← players_intentsOf, List.countP_map]
  rfl

/-- Each drained player has one ticket, in a match with or without a server. -/
theorem Sound.sum_placed_add_sum_unplaced (h : t.Sound settings)
    (ended : ∀ m ∈ t.games, m ∈ t.ended) :
    ((placed t.ends).map Match.ticketCount).sum + ((unplaced t.ends).map Match.ticketCount).sum =
      t.drained.length := by
  rw [Allocation.sum_placed_add_sum_unplaced Match.ticketCount (fun _ _ => rfl)]
  exact ((h.ended_perm ended).map _).sum_eq.trans h.sum_ticketCount

theorem Sound.nodup_placed_ids (h : t.Sound settings) (ended : ∀ m ∈ t.games, m ∈ t.ended) :
    ((placed t.ends).map Match.id).Nodup :=
  (((h.ended_perm ended).map Match.id).nodup_iff.mpr h.distinct).sublist (placed_ids_sublist _)

/-- No match counts both as one with a server and as one without. -/
theorem Sound.not_mem_placed_ids (h : t.Sound settings) {m : Match} (hm : m ∈ unplaced t.ends) :
    m.id ∉ (placed t.ends).map Match.id := by
  intro hid
  obtain ⟨n, hn, hid⟩ := List.mem_map.mp hid
  obtain ⟨e, he, why, hwhy, rfl⟩ := mem_unplaced_iff.mp hm
  obtain ⟨e', he', a, ha, rfl⟩ := mem_placed_iff.mp hn
  have hgame : e'.game = e.game :=
    List.inj_on_of_nodup_map h.distinct (h.ended_subset (List.mem_map_of_mem he'))
      (h.ended_subset (List.mem_map_of_mem he)) hid
  obtain rfl : e' = e := List.inj_on_of_nodup_map h.ended_nodup he' he hgame
  rw [hwhy] at ha
  cases ha

end TickRecord

namespace Course

section

variable {settings : Settings} {c d : Course}

/-! ## Every tick ends -/

/-- How many steps a tick takes at most before it ends. -/
def remaining (c : Course) : Nat :=
  match c.scheduler.phase with
  | .idle => 0
  | .allocating _ _ batch => 2 * batch.running + batch.allocated.length + 2
  | .announcing _ _ left => left.length + 1

theorem remaining_submit (c : Course) (i : Intent) : (c.submit i).remaining = c.remaining := rfl

theorem Coherent.remaining_lt (h : c.Coherent settings) (m : Move c d)
    (busy : c.scheduler.phase ≠ .idle) : d.remaining < c.remaining := by
  cases m with
  | begin fresh since now idle => exact absurd idle busy
  | @resolve t since stats batch m o phase head made running =>
      obtain ⟨past, _, hsound, _, _, _, _, tracks⟩ := h.of_allocating_head phase head
      have hphase : (c.resolve m o).scheduler.phase =
          .allocating since stats (batch.resolve m.id o).1 := by
        simp only [Course.resolve, Scheduler.resolve, phase]
      have hlt := hsound.length_ends_lt made running
      have hrunning := tracks.running
      have hone := batch.running_resolve m.id o
      have hallocated := batch.length_allocated_resolve_le m.id o
      simp only [remaining, phase, hphase]
      omega
  | settle phase head ended =>
      have hzero := h.running_eq_zero phase head ended
      simp only [remaining, Course.settle, Scheduler.settle_of_all_ended phase hzero, phase]
      omega
  | announce v phase =>
      simp only [remaining, Course.announce, Scheduler.announced_of_announcing phase, phase,
        List.length_cons]
      omega
  | finish elapsed now phase =>
      simp only [remaining, Course.finish, Scheduler.finish, phase, List.length_nil]
      omega

theorem Coherent.exists_move (h : c.Coherent settings) (busy : c.scheduler.phase ≠ .idle) :
    ∃ d, Move c d := by
  cases hphase : c.scheduler.phase with
  | idle => exact absurd hphase busy
  | allocating since stats batch =>
      obtain ⟨t, past, ticks, _⟩ := h.of_allocating hphase
      have hhead : c.ticks.head? = some t := by rw [ticks]; rfl
      by_cases hended : ∀ m ∈ t.games, m ∈ t.ended
      · exact ⟨_, .settle hphase hhead hended⟩
      · simp only [not_forall] at hended
        obtain ⟨m, made, running⟩ := hended
        exact ⟨_, .resolve m (.crashed "" "") hphase hhead made running⟩
  | announcing since stats left =>
      cases left with
      | nil =>
          have now : Timestamp := ⟨⟨1970, 1, 1, by decide, by decide, by decide⟩, 0, 0, 0, 0⟩
          exact ⟨_, .finish since now hphase⟩
      | cons m left => exact ⟨_, .announce none hphase⟩

/-! ## What a tick publishes -/

/-- Only the end of a tick publishes numbers. -/
theorem lastTick_of_step (s : Step c d) : d.scheduler.lastTick = c.scheduler.lastTick ∨
    c.scheduler.phase ≠ .idle ∧ d.scheduler.phase = .idle := by
  cases s with
  | submit i => exact Or.inl rfl
  | move m =>
      cases m with
      | begin fresh since now => exact Or.inl rfl
      | resolve m o phase => exact Or.inl (by simp only [Course.resolve, Scheduler.resolve, phase])
      | settle phase =>
          left
          simp only [Course.settle, Scheduler.settle, phase]
          split <;> rfl
      | announce v phase =>
          exact Or.inl (by simp only [Course.announce, Scheduler.announced_of_announcing phase])
      | finish elapsed now phase =>
          refine Or.inr ⟨?_, by simp only [Course.finish, Scheduler.finish, phase]⟩
          rw [phase]
          exact Phase.noConfusion

/-- A tick under way always ends: it has a next step, and every step brings the end nearer, which
wishes that come in cannot put off. Numbers are published at its end and at no other time, and they
are those of the tick: of the players that it drained, the matches that it made, those whose tasks
ended with a server and without one, the players put back, and the announcements that failed. Every
match with a server is announced once, in the order in which the tasks ended, and no other. -/
theorem tick_numbers_exact (h : Reachable settings c) :
    (c.scheduler.phase ≠ .idle →
      (∃ d, Move c d) ∧ ∀ d, Move c d → d.remaining < c.remaining) ∧
    (∀ i, (c.submit i).remaining = c.remaining) ∧
    (∀ d, Step c d → d.scheduler.lastTick = c.scheduler.lastTick ∨
      c.scheduler.phase ≠ .idle ∧ d.scheduler.phase = .idle) ∧
    ∀ t past, c.ticks = t :: past → c.scheduler.phase = .idle →
      let size := max settings.playersPerMatch 1
      ∃ stats, c.scheduler.lastTick = some stats ∧
        stats.playersDrained = t.found.size ∧
        stats.matchesCreated = (t.found.size + size - 1) / size ∧
        stats.matchesCreated = stats.matchesAllocated + stats.matchesFailed ∧
        stats.matchesAllocated = (placed t.ends).length ∧
        stats.matchesFailed = (unplaced t.ends).length ∧
        t.ended.Perm t.games ∧
        ((placed t.ends).map Match.ticketCount).sum +
          ((unplaced t.ends).map Match.ticketCount).sum = stats.playersDrained ∧
        (settings.failurePolicy = .drop → stats.playersRequeued = 0) ∧
        (settings.failurePolicy = .requeue → stats.playersRequeued =
          ((unplaced t.ends).flatMap Match.players).countP (· ∉ t.during.map Intent.player)) ∧
        ((unplaced t.ends).flatMap Match.players).Nodup ∧
        stats.notificationsFailed = t.told.countP (·.2.isSome) ∧
        t.told.map Prod.fst = placed t.ends ∧
        ((placed t.ends).map Match.id).Nodup ∧
        ∀ m ∈ unplaced t.ends, m.id ∉ (placed t.ends).map Match.id := by
  have hcoherent := h.coherent
  refine ⟨fun busy => ⟨hcoherent.exists_move busy, fun d m => hcoherent.remaining_lt m busy⟩,
    remaining_submit c, fun d s => lastTick_of_step s, ?_⟩
  intro t past ticks idle size
  rcases hcoherent.of_idle idle with hnone | ⟨u, older, stats, hu, complete, last, counts⟩
  · rw [hnone] at ticks
    cases ticks
  rw [hu] at ticks
  cases ticks
  have hsound : t.Sound settings := hcoherent.sound t (hu ▸ List.mem_cons_self)
  have hsize : t.drained.length = t.found.size := hsound.found.size_eq.symm
  have hends : t.ends.length = t.batch.length := hsound.length_ends_eq complete.all_ended
  refine ⟨stats, last, ?_, ?_, ?_, counts.matchesAllocated, counts.matchesFailed,
    hsound.ended_perm complete.all_ended, ?_, ?_, ?_, ?_, counts.notificationsFailed, complete.told_eq,
    hsound.nodup_placed_ids complete.all_ended, fun m => hsound.not_mem_placed_ids⟩
  · rw [counts.playersDrained, hsize]
  · rw [counts.matchesCreated, hsound.length_batch, hsize]
  · rw [counts.matchesCreated, counts.matchesAllocated, counts.matchesFailed,
      length_placed_add_length_unplaced, hends]
  · rw [hsound.sum_placed_add_sum_unplaced complete.all_ended, counts.playersDrained]
  · intro hdrop
    rw [counts.playersRequeued, hdrop]
    rfl
  · intro hrequeue
    rw [counts.playersRequeued, hrequeue, hsound.length_givenBack_requeue]
  · rw [← players_intentsOf]
    exact hsound.nodup_unplaced

/-- Of three matches one gets a server, and of the players of the others one has asked again. -/
theorem trial_numbers :
    ∃ stats, trial.scheduler.lastTick = some stats ∧ stats.playersDrained = 3 ∧
      stats.matchesCreated = 3 ∧ stats.matchesAllocated = 1 ∧ stats.matchesFailed = 2 ∧
      stats.playersRequeued = 1 ∧ stats.notificationsFailed = 1 := by
  obtain ⟨_, _, _, hnumbers⟩ := tick_numbers_exact trial_reachable.1
  obtain ⟨stats, last, hdrained, hcreated, _, hallocated, hfailed, _, _, _, hrequeued, _, hlost, _⟩ :=
    hnumbers trialTick [] trial_ticks trial_reachable.2
  have hsize : trialTick.found.size = 3 := by
    refine trialWaiting_reachable.coherent.queue.size_eq.trans ?_
    rw [trialWaiting_intents]
    rfl
  rw [hsize] at hdrained hcreated
  exact ⟨stats, last, hdrained, hcreated, hallocated, hfailed, hrequeued rfl, hlost⟩

end

end Course

end Matchmaking
