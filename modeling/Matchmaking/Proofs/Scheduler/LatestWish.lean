import Matchmaking.Proofs.Scheduler.Coherence

/-!
# No wish is lost

A player's latest wish is in the queue or was drained by the last tick that drained the player. In
that tick the player's match is still being dealt with, got a server, or failed under a policy that
drops its players.
-/

namespace Matchmaking

open Allocation Entries

namespace TickRecord

/-- The match of a player got a server. -/
def Places (t : TickRecord) (p : PlayerId) : Prop :=
  ∃ e ∈ t.ends, p ∈ e.game.players ∧ ∃ a, e.outcome.result = .ok a

section

variable {settings : Settings} {t : TickRecord} {p : PlayerId}

theorem drains_iff : t.drains p = true ↔ p ∈ t.drained.map Intent.player := decide_eq_true_iff

/-- Once every task has ended, a drained player who is not put back under the requeue policy has
asked again or is in a match with a server. -/
theorem Sound.mem_during_or_places (h : t.Sound settings)
    (ended : ∀ m ∈ t.games, m ∈ t.ended) (hp : p ∈ t.drained.map Intent.player)
    (hback : p ∉ (t.givenBack .requeue).map Intent.player) :
    p ∈ t.during.map Intent.player ∨ t.Places p := by
  obtain ⟨m, hm, hpm⟩ := h.exists_game hp
  obtain ⟨e, he, rfl⟩ := List.mem_map.mp (ended m hm)
  cases hres : e.outcome.result with
  | ok a => exact Or.inr ⟨e, he, hpm, a, hres⟩
  | error why =>
      left
      by_contra hduring
      apply hback
      have hfailed : p ∈ (intentsOf (unplaced t.ends)).map Intent.player := by
        rw [players_intentsOf]
        exact List.mem_flatMap.mpr ⟨e.game, mem_unplaced_iff.mpr ⟨e, he, why, hres, rfl⟩, hpm⟩
      exact mem_players_newcomers.mpr ⟨hduring, hfailed⟩

/-- The match with a server carries the wish that the player was drained with. -/
theorem Sound.wish_placed (h : t.Sound settings) (hp : t.Places p) {v : Bool}
    (hv : ⟨p, v⟩ ∈ t.drained) : ⟨p, v⟩ ∈ intentsOf (placed t.ends) := by
  obtain ⟨e, he, hpe, a, ha⟩ := hp
  rw [← h.intentsOf_games] at hv
  obtain ⟨m, hm, hv⟩ := List.mem_flatMap.mp hv
  have hpm : p ∈ m.players := by
    obtain ⟨k, hk, hv⟩ := List.mem_flatMap.mp hv
    obtain ⟨r, hr, hrp⟩ := List.mem_map.mp hv
    cases hrp
    exact List.mem_flatMap.mpr ⟨k, hk, hr⟩
  obtain rfl : e.game = m :=
    eq_of_mem_players h.nodup_players (h.ended_subset (List.mem_map_of_mem he)) hm hpe hpm
  exact List.mem_flatMap.mpr ⟨e.game.assign a, mem_placed_iff.mpr ⟨e, he, a, ha, rfl⟩, hv⟩

end

end TickRecord

namespace Course

/-- The last tick that drained a player. -/
def lastDrain? (c : Course) (p : PlayerId) : Option TickRecord := c.ticks.find? (·.drains p)

/-- A player's wish waits, or the last tick that drained the player accounts for it. -/
structure Keeps (policy : FailurePolicy) (c : Course) (p : PlayerId) (v : Bool) : Prop where
  waiting : ∀ w, first? c.scheduler.queue.intents p = some w → w = v
  drained : first? c.scheduler.queue.intents p = none →
    ∃ t, c.lastDrain? p = some t ∧ ⟨p, v⟩ ∈ t.drained ∧
      (t.settled = true → policy = .requeue → t.Places p)

section Keeps

variable {settings : Settings} {policy : FailurePolicy} {c d : Course} {p : PlayerId} {v : Bool}

private theorem lastDrain?_modifyHead {f : TickRecord → TickRecord} {t : TickRecord}
    (hf : ∀ t, (f t).found = t.found) (hd : d.ticks = c.ticks.modifyHead f)
    (ht : c.lastDrain? p = some t) :
    d.lastDrain? p = some t ∨ c.ticks.head? = some t ∧ d.lastDrain? p = some (f t) := by
  have hdrains (t : TickRecord) : (f t).drains p = t.drains p := by
    rw [TickRecord.drains, TickRecord.drained, hf]
    rfl
  rw [lastDrain?] at ht ⊢
  cases hc : c.ticks with
  | nil =>
      rw [hc] at ht
      cases ht
  | cons u past =>
      rw [hc] at ht
      rw [hd, hc, List.modifyHead_cons]
      cases hu : u.drains p with
      | true =>
          rw [List.find?_cons_of_pos hu] at ht
          obtain rfl : u = t := Option.some.inj ht
          exact Or.inr ⟨rfl, List.find?_cons_of_pos ((hdrains u).trans hu)⟩
      | false =>
          rw [List.find?_cons_of_neg (by simp [hu])] at ht
          exact Or.inl (by rw [List.find?_cons_of_neg (by simp [hdrains, hu])]; exact ht)

/-- A step that leaves a player's entry alone and takes no requeue step keeps the player's wish. -/
private theorem Keeps.of_modifyHead (h : c.Keeps policy p v) {f : TickRecord → TickRecord}
    (hfound : ∀ t, (f t).found = t.found) (hsettled : ∀ t, (f t).settled = t.settled)
    (hends : ∀ t, t.ends ⊆ (f t).ends) (hd : d.ticks = c.ticks.modifyHead f)
    (hq : first? d.scheduler.queue.intents p = first? c.scheduler.queue.intents p) :
    d.Keeps policy p v where
  waiting := by
    rw [hq]
    exact h.waiting
  drained := by
    rw [hq]
    intro hnone
    obtain ⟨t, ht, hv, hplaces⟩ := h.drained hnone
    rcases lastDrain?_modifyHead hfound hd ht with hsame | ⟨_, hhead⟩
    · exact ⟨t, hsame, hv, hplaces⟩
    · refine ⟨f t, hhead, ?_, ?_⟩
      · rw [TickRecord.drained, hfound]
        exact hv
      · rw [hsettled]
        intro hs hr
        obtain ⟨e, he, hpe, ha⟩ := hplaces hs hr
        exact ⟨e, hends t he, hpe, ha⟩

theorem Keeps.submit (coherent : c.Coherent settings) {i : Intent}
    (h : ∀ v, last? c.said p = some v → c.Keeps policy p v)
    (hv : last? (c.submit i).said p = some v) : (c.submit i).Keeps policy p v := by
  have hentry : first? (c.submit i).scheduler.queue.intents p =
      if i.player = p then some i.autoTeleport else first? c.scheduler.queue.intents p := by
    rw [← first?_write, ← coherent.queue.intents_submit]
    rfl
  have hlast : last? (c.submit i).said p =
      if i.player = p then some i.autoTeleport else last? c.said p := last?_append_singleton i
  by_cases hp : i.player = p
  · rw [if_pos hp] at hentry hlast
    constructor
    · intro w hw
      exact Option.some.inj (hw.symm.trans (hentry.trans (hlast.symm.trans hv)))
    · intro hnone
      rw [hentry] at hnone
      cases hnone
  · rw [if_neg hp] at hentry hlast
    exact (h v (hlast.symm.trans hv)).of_modifyHead (·.hear_found i) (·.hear_settled i)
      (fun t => (t.hear_ends i).symm ▸ List.Subset.refl _) rfl hentry

theorem Keeps.begin (h : c.Keeps policy p v) (fresh : Nat → MatchId) (since : Nat)
    (now : Time.Timestamp) : (c.begin fresh since now).Keeps policy p v where
  waiting := by
    intro w hw
    cases hw
  drained := by
    intro _
    cases hq : first? c.scheduler.queue.intents p with
    | some w =>
        have hw : (⟨p, w⟩ : Intent) ∈ c.scheduler.queue.intents := mem_of_first? hq
        refine ⟨_, List.find?_cons_of_pos ?_, h.waiting w hq ▸ hw, ?_⟩
        · exact TickRecord.drains_iff.mpr (List.mem_map_of_mem (f := Intent.player) hw)
        · intro hs
          cases hs
    | none =>
        obtain ⟨t, ht, hv, hplaces⟩ := h.drained hq
        refine ⟨t, ?_, hv, hplaces⟩
        have hnot := first?_eq_none_iff.mp hq
        exact (List.find?_cons_of_neg (mt TickRecord.drains_iff.mp hnot)).trans ht

theorem Keeps.settle (coherent : c.Coherent settings)
    (h : c.Keeps settings.failurePolicy p v) {t : TickRecord} {since : Nat} {stats : TickStats}
    {batch : FanOut} (phase : c.scheduler.phase = .allocating since stats batch)
    (head : c.ticks.head? = some t) (ended : ∀ m ∈ t.games, m ∈ t.ended) :
    c.settle.Keeps settings.failurePolicy p v := by
  obtain ⟨past, ticks, hsound, _, unsettled, _, unheard, _⟩ :=
    coherent.of_allocating_head phase head
  have hticks : c.settle.ticks = { t with settled := true } :: past := by
    simp only [Course.settle, ticks, List.modifyHead_cons]
  have hbefore := coherent.intents_of_unsettled ticks unsettled
  have hafter : c.settle.scheduler.queue.intents =
      t.givenBack settings.failurePolicy ++ c.scheduler.queue.intents := by
    rw [(coherent.settle phase head ended).entries _ past hticks, hbefore]
    simp only [TickRecord.entries, unheard]
    rfl
  have hnew {r : PlayerId} (hr : r ∈ (t.givenBack settings.failurePolicy).map Intent.player) :
      first? c.scheduler.queue.intents r = none := by
    rw [hbefore, first?_eq_none_iff, mem_players_writeAll]
    exact not_or.mpr ⟨List.not_mem_nil, TickRecord.not_mem_during_of_givenBack hr⟩
  constructor
  · intro w hw
    rw [hafter, first?_append] at hw
    cases hg : first? (t.givenBack settings.failurePolicy) p with
    | none =>
        rw [hg, Option.none_or] at hw
        exact h.waiting w hw
    | some x =>
        rw [hg, Option.some_or] at hw
        obtain rfl := Option.some.inj hw
        have hx := mem_of_first? hg
        have hxu := hsound.mem_drained_of_givenBack hx
        obtain ⟨r, hr, hv, _⟩ := h.drained (hnew (List.mem_map_of_mem hx))
        have hdrains : t.drains p := TickRecord.drains_iff.mpr (List.mem_map_of_mem hxu)
        rw [lastDrain?, ticks, List.find?_cons_of_pos hdrains] at hr
        obtain rfl := Option.some.inj hr
        exact hsound.drained_unique hxu hv
  · intro hnone
    rw [hafter, first?_append, Option.or_eq_none_iff] at hnone
    obtain ⟨r, hr, hv, hplaces⟩ := h.drained hnone.2
    rcases lastDrain?_modifyHead (d := c.settle) (f := fun t => { t with settled := true })
      (fun _ => rfl) rfl hr with hsame | ⟨hhead, hsame⟩
    · exact ⟨r, hsame, hv, hplaces⟩
    · refine ⟨_, hsame, hv, fun _ hrequeue => ?_⟩
      obtain rfl : t = r := by
        rw [ticks] at hhead
        exact Option.some.inj hhead
      have hback := first?_eq_none_iff.mp hnone.1
      have hquiet : p ∉ t.during.map Intent.player := by
        intro hp
        apply first?_eq_none_iff.mp hnone.2
        rw [hbefore, mem_players_writeAll]
        exact Or.inr hp
      rw [hrequeue] at hback
      exact (hsound.mem_during_or_places ended (List.mem_map_of_mem hv) hback).resolve_left hquiet

/-- One step, of a submitter or of the scheduler, keeps everybody's latest wish. -/
theorem Keeps.step (coherent : c.Coherent settings) (s : Step c d)
    (h : ∀ p v, last? c.said p = some v → c.Keeps settings.failurePolicy p v)
    (hv : last? d.said p = some v) : d.Keeps settings.failurePolicy p v := by
  cases s with
  | submit i => exact Keeps.submit coherent (h p) hv
  | move m =>
      cases m with
      | begin fresh since now => exact (h p v hv).begin fresh since now
      | resolve m o phase =>
          refine (h p v hv).of_modifyHead (f := fun t => { t with ends := t.ends ++ [⟨m, o⟩] })
            (fun _ => rfl) (fun _ => rfl) (fun _ => List.subset_append_left _ _) rfl ?_
          simp only [Course.resolve, Scheduler.resolve, phase]
      | settle phase head ended => exact Keeps.settle coherent (h p v hv) phase head ended
      | @announce _ _ m _ v' phase =>
          refine (h p v hv).of_modifyHead (f := fun t => { t with told := t.told ++ [(m, v')] })
            (fun _ => rfl) (fun _ => rfl) (fun _ => List.Subset.refl _) rfl ?_
          simp only [Course.announce, Scheduler.announced_of_announcing phase]
      | finish elapsed now phase =>
          refine (h p v hv).of_modifyHead (f := id) (fun _ => rfl) (fun _ => rfl)
            (fun _ => List.Subset.refl _) (congrFun List.modifyHead_id c.ticks).symm ?_
          simp only [Course.finish, Scheduler.finish, phase]

theorem Reachable.keeps (h : Reachable settings c) (hv : last? c.said p = some v) :
    c.Keeps settings.failurePolicy p v := by
  induction h generalizing p v with
  | new => cases hv
  | step h s ih => exact Keeps.step h.coherent s (fun p v => ih) hv

end Keeps

/-- A player who has asked waits with the latest wish, or the last tick that drained the player
drained exactly that wish. In that tick the player is in one match. Until the requeue step the tick
is under way; after it the match got a server, or it failed and the policy drops its players. So
between two ticks, under the requeue policy, a player who does not wait has been announced with the
latest wish. -/
theorem latest_wish_kept {settings : Settings} {c : Course} (h : Reachable settings c)
    {p : PlayerId} {v : Bool} (hv : last? c.said p = some v) :
    (∀ i ∈ c.scheduler.queue.intents, i.player = p → i.autoTeleport = v) ∧
    (p ∉ c.scheduler.queue.intents.map Intent.player →
      ∃ t, c.lastDrain? p = some t ∧ (∀ w, ⟨p, w⟩ ∈ t.drained ↔ w = v) ∧
        (∃ m ∈ t.games, (∀ n ∈ t.games, p ∈ n.players ↔ n = m) ∧
          (t.settled = false ∧ c.ticks.head? = some t ∧
              (∃ since stats batch, c.scheduler.phase = .allocating since stats batch) ∨
            t.settled = true ∧ ∃ e ∈ t.ends, e.game = m ∧
              ((∃ a, e.outcome.result = .ok a) ∨
                (∃ why, e.outcome.result = .error why) ∧ settings.failurePolicy = .drop))) ∧
        (settings.failurePolicy = .requeue → c.scheduler.phase = .idle →
          ⟨p, v⟩ ∈ intentsOf (t.told.map Prod.fst))) := by
  have hkeeps := h.keeps hv
  have hcoherent := h.coherent
  refine ⟨?_, ?_⟩
  · rintro ⟨r, w⟩ hi rfl
    exact hkeeps.waiting w ((mem_iff_first? hcoherent.queue.nodup_players).mp hi)
  intro hout
  obtain ⟨t, ht, hdrained, hplaces⟩ := hkeeps.drained (first?_eq_none_iff.mpr hout)
  have hmem : t ∈ c.ticks := List.mem_of_find?_eq_some ht
  have hsound : t.Sound settings := hcoherent.sound t hmem
  obtain ⟨m, hm, hpm⟩ := hsound.exists_game (List.mem_map_of_mem hdrained)
  refine ⟨t, ht, ?_, ⟨m, hm, ?_, ?_⟩, ?_⟩
  · intro w
    exact ⟨fun hw => hsound.drained_unique hw hdrained, fun hw => hw ▸ hdrained⟩
  · intro n hn
    constructor
    · intro hpn
      exact eq_of_mem_players hsound.nodup_players hn hm hpn hpm
    · rintro rfl
      exact hpm
  · rcases hcoherent.closed_or_waiting hmem with hclosed | hwaiting
    · obtain ⟨e, he, rfl⟩ := List.mem_map.mp (hclosed.all_ended m hm)
      refine Or.inr ⟨hclosed.settled, e, he, rfl, ?_⟩
      cases hpolicy : settings.failurePolicy with
      | requeue =>
          obtain ⟨e', he', hpe', hok⟩ := hplaces hclosed.settled hpolicy
          have hgame : e'.game = e.game :=
            eq_of_mem_players hsound.nodup_players
              (hsound.ended_subset (List.mem_map_of_mem he')) hm hpe' hpm
          obtain rfl : e' = e := List.inj_on_of_nodup_map hsound.ended_nodup he' he hgame
          exact Or.inl hok
      | drop =>
          cases hres : e.outcome.result with
          | ok a => exact Or.inl ⟨a, rfl⟩
          | error why => exact Or.inr ⟨⟨why, rfl⟩, rfl⟩
    · exact Or.inl hwaiting
  · intro hrequeue idle
    have hover : t.Over := hcoherent.over_of_idle idle t hmem
    rw [hover.told_eq]
    exact hsound.wish_placed (hplaces hover.settled hrequeue) hdrained

/-- Of three players one waits with the later of two wishes, and one has been announced. -/
theorem trial_latest_wishes :
    (∀ i ∈ trial.scheduler.queue.intents, i.player = ⟨2⟩ → i.autoTeleport = true) ∧
    ∃ t, trial.lastDrain? ⟨0⟩ = some t ∧ ⟨⟨0⟩, true⟩ ∈ intentsOf (t.told.map Prod.fst) := by
  refine ⟨(latest_wish_kept trial_reachable.1 (p := ⟨2⟩) rfl).1, ?_⟩
  have hout : (⟨0⟩ : PlayerId) ∉ trial.scheduler.queue.intents.map Intent.player := by
    rw [trial_intents]
    decide
  obtain ⟨t, ht, _, _, htold⟩ := (latest_wish_kept trial_reachable.1 (v := true) rfl).2 hout
  exact ⟨t, ht, htold rfl trial_reachable.2⟩

end Course

end Matchmaking
