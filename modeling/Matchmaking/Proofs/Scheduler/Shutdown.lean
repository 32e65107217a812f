import Matchmaking.Proofs.Scheduler.Run

/-!
# Shutdown

Ticks start only while nobody has asked for shutdown and somebody still could. A run returns between
two ticks and never otherwise, and once it has to stop it gets nearer to its end with every step.
-/

namespace Matchmaking

open Allocation

namespace TickRecord

variable {settings : Settings} {t : TickRecord}

/-- In a tick that is over, the match of every drained player has been announced with its server, or
it has got none and the requeue step has dealt with it. -/
theorem Sound.settled_of_drained (h : t.Sound settings) (ended : t.Over) {i : Intent}
    (hi : i ∈ t.drained) :
    ∃ e ∈ t.ends, i.player ∈ e.game.players ∧
      ((∃ a, e.outcome.result = .ok a ∧ e.game.assign a ∈ t.told.map Prod.fst) ∨
        (∃ why, e.outcome.result = .error why ∧ e.game ∈ unplaced t.ends)) := by
  obtain ⟨m, hm, hp⟩ := h.exists_game (List.mem_map_of_mem hi)
  obtain ⟨e, he, rfl⟩ := List.mem_map.mp (ended.all_ended m hm)
  refine ⟨e, he, hp, ?_⟩
  cases hresult : e.outcome.result with
  | ok a =>
      left
      refine ⟨a, rfl, ?_⟩
      rw [ended.told_eq]
      exact mem_placed_iff.mpr ⟨e, he, a, hresult, rfl⟩
  | error why => exact Or.inr ⟨why, rfl, mem_unplaced_iff.mpr ⟨e, he, why, hresult, rfl⟩⟩

end TickRecord

namespace Course

variable {settings : Settings} {c : Course}

/-- Between two ticks, under the requeue policy, the players of the failed matches of the latest
tick wait. -/
theorem Coherent.waits_of_unplaced (h : c.Coherent settings) (idle : c.scheduler.phase = .idle)
    (requeue : settings.failurePolicy = .requeue) {t : TickRecord} {past : List TickRecord}
    (ticks : c.ticks = t :: past) {m : Match} (hm : m ∈ unplaced t.ends) {p : PlayerId}
    (hp : p ∈ m.players) : p ∈ c.scheduler.queue.intents.map Intent.player := by
  have hmem : t ∈ c.ticks := ticks ▸ List.mem_cons_self
  have hsound : t.Sound settings := h.sound t hmem
  have hover : t.Over := h.over_of_idle idle t hmem
  rw [h.entries t past ticks, TickRecord.entries, hover.settled, if_pos rfl,
    Entries.mem_players_writeAll, List.map_append, List.mem_append, Entries.mem_players_writeAll]
  by_cases hduring : p ∈ t.during.map Intent.player
  · exact Or.inl (Or.inr (Or.inr hduring))
  · refine Or.inl (Or.inl ?_)
    rw [requeue, hsound.givenBack_requeue]
    have hback : p ∈ (intentsOf (unplaced t.ends)).map Intent.player := by
      rw [players_intentsOf]
      exact List.mem_flatMap.mpr ⟨m, hm, hp⟩
    obtain ⟨i, hi, rfl⟩ := List.mem_map.mp hback
    exact List.mem_map_of_mem (List.mem_filter.mpr ⟨hi, by simpa using hduring⟩)

theorem length_ticks_submit (c : Course) (i : Intent) :
    (c.submit i).ticks.length = c.ticks.length := by
  simp only [submit, List.length_modifyHead]

/-- Only the start of a tick adds to the ticks. -/
theorem length_ticks_of_move {d : Course} (m : Move c d) (busy : c.scheduler.phase ≠ .idle) :
    d.ticks.length = c.ticks.length := by
  cases m with
  | begin fresh since now idle => exact absurd idle busy
  | resolve m o => simp only [resolve, List.length_modifyHead]
  | settle => simp only [settle, List.length_modifyHead]
  | announce v => simp only [announce, List.length_modifyHead]
  | finish => rfl

/-- Between two ticks the only move is to start the next. -/
theorem begins_of_idle {d : Course} (m : Move c d) (idle : c.scheduler.phase = .idle) :
    ∃ fresh since now, d = c.begin fresh since now ∧
      ((gamesOf (c.scheduler.begin fresh since now).2.1).map Match.id).Nodup := by
  cases m with
  | begin fresh since now _ distinct => exact ⟨fresh, since, now, rfl, distinct⟩
  | resolve _ _ phase => rw [idle] at phase; cases phase
  | settle phase => rw [idle] at phase; cases phase
  | announce _ phase => rw [idle] at phase; cases phase
  | finish _ _ phase => rw [idle] at phase; cases phase

theorem busy_of_move {d : Course} (m : Move c d) (same : d.ticks.length = c.ticks.length) :
    c.scheduler.phase ≠ .idle := by
  intro idle
  obtain ⟨fresh, since, now, rfl, _⟩ := begins_of_idle m idle
  exact absurd same (Nat.succ_ne_self _)

end Course

namespace Listener

theorem unattended_of_changed? {l m : Listener} (h : l.changed? = some (false, m)) :
    m.channel.attended = false := by
  unfold changed? at h
  split at h
  · cases h
  · split at h
    · cases h
    · rename_i hattended
      cases h
      simpa using hattended

theorem channel_of_changed? {l m : Listener} {value : Bool} (h : l.changed? = some (value, m)) :
    m.channel = l.channel := by
  unfold changed? at h
  split at h
  · cases h
    rfl
  · split at h
    · cases h
    · cases h
      rfl

/-- How many steps it takes to take note of a value that does not ask for shutdown. -/
def idleNews (l : Listener) : Nat :=
  if l.unseen = true ∧ l.channel.asked = false then 2 else 0

theorem idleNews_le (l : Listener) : l.idleNews ≤ 2 := by
  unfold idleNews
  split <;> omega

theorem idleNews_of_asked {l : Listener} (hasked : l.channel.asked = true) : l.idleNews = 0 := by
  rw [idleNews, hasked, if_neg fun h => Bool.noConfusion h.2]

theorem idleNews_lt_of_changed? {l m : Listener} (h : l.changed? = some (true, m))
    (hasked : m.channel.asked = false) : m.idleNews + 2 = l.idleNews := by
  have hchannel := channel_of_changed? h
  unfold changed? at h
  split at h
  · rename_i hunseen
    cases h
    simp only at hasked
    simp [idleNews, hunseen, hasked]
  · split at h <;> cases h

end Listener

namespace Run

/-! ## What holds of every run -/

/-- A run is in a tick or between two, and it hears what there is to hear. -/
structure Coherent (settings : Settings) (r : Run) : Prop where
  course : r.course.Reachable settings
  idle : r.place ≠ .ticking → r.course.scheduler.phase = .idle
  /-- Shutdown that has been asked for since the channel was last looked at is news. -/
  unseen : r.place = .ticking ∨ r.place = .waiting → r.listener.channel.asked = true →
    r.listener.unseen = true
  unattended : r.place = .woken false → r.listener.channel.attended = false

section Coherent

variable {settings : Settings} {r s : Run}

theorem coherent_new (settings : Settings) (asked : Bool) :
    (new settings asked).Coherent settings where
  course := .new
  idle := fun _ => rfl
  unseen := fun h => by rcases h with h | h <;> cases h
  unattended := fun h => by cases h

theorem Coherent.submit (h : r.Coherent settings) (i : Intent) :
    (r.submit i).Coherent settings where
  course := h.course.step (.submit i)
  idle := h.idle
  unseen := h.unseen
  unattended := h.unattended

theorem Coherent.send (h : r.Coherent settings) (value : Bool) :
    (r.send value).Coherent settings where
  course := h.course
  idle := h.idle
  unseen := by
    intro place asked
    cases hattended : r.listener.channel.attended with
    | true => simp only [Run.send, Listener.send, hattended, Bool.or_true]
    | false =>
        simp only [Run.send, Listener.send, ShutdownChannel.send, hattended,
          Bool.or_false] at asked ⊢
        exact h.unseen place asked
  unattended := by
    intro place
    have hgone := h.unattended place
    simp only [Run.send, Listener.send, ShutdownChannel.send, hgone]
    exact hgone

theorem Coherent.abandon (h : r.Coherent settings) : r.abandon.Coherent settings where
  course := h.course
  idle := h.idle
  unseen := h.unseen
  unattended := fun _ => rfl

/-- From between two ticks a run may go to any place where nothing has to be news. -/
private theorem Coherent.goTo (h : r.Coherent settings) (place : r.place ≠ .ticking) {p : Place}
    (hp : p = .top ∨ p = .returned) : ({ r with place := p } : Run).Coherent settings where
  course := h.course
  idle := fun _ => h.idle place
  unseen := fun hw => by rcases hp with rfl | rfl <;> simp at hw
  unattended := fun hw => by rcases hp with rfl | rfl <;> cases hw

theorem Coherent.move (h : r.Coherent settings) (m : Move r s) : s.Coherent settings := by
  cases m with
  | stop place => exact h.goTo (by simp [place]) (Or.inr rfl)
  | begin fresh since now place quiet distinct =>
      have hidle := h.idle (by simp [place])
      have hasked : r.listener.channel.asked = false := by
        simp only [stops, ShutdownChannel.stops, Bool.or_eq_false_iff] at quiet
        exact quiet.1
      refine ⟨h.course.step (.move (.begin fresh since now hidle distinct)),
        fun hp => absurd rfl hp, fun _ asked => ?_, fun hp => Place.noConfusion hp⟩
      rw [hasked] at asked
      cases asked
  | work place busy move =>
      exact ⟨h.course.step (.move move), fun hp => absurd place hp, h.unseen, h.unattended⟩
  | rest elapsed place idle =>
      refine ⟨h.course, fun _ => idle, fun _ => h.unseen (Or.inl place), fun hp => ?_⟩
      dsimp only at hp
      split at hp <;> cases hp
  | resume place => exact h.goTo (by simp [place]) (Or.inl rfl)
  | expire place => exact h.goTo (by simp [place]) (Or.inl rfl)
  | @wake value l place changed =>
      refine ⟨h.course, fun _ => h.idle (by simp [place]), fun hp => by simp at hp, fun hp => ?_⟩
      exact Listener.unattended_of_changed? (by rwa [← Place.woken.inj hp])
  | @listen value place =>
      have hidle := h.idle (by simp [place])
      split
      · exact h.goTo (by simp [place]) (Or.inr rfl)
      · rename_i hgo
        rw [not_or, Bool.not_eq_true] at hgo
        refine ⟨h.course, fun _ => hidle, fun _ asked => ?_, fun hp => Place.noConfusion hp⟩
        rw [hgo.2] at asked
        cases asked

/-- What holds of every run holds after the next step. -/
theorem Coherent.step (h : r.Coherent settings) (t : Step r s) : s.Coherent settings := by
  cases t with
  | submit i => exact h.submit i
  | send value => exact h.send value
  | abandon => exact h.abandon
  | move m => exact h.move m

theorem Reachable.coherent (h : Reachable settings r) : r.Coherent settings := by
  induction h with
  | new asked => exact coherent_new settings asked
  | step _ t ih => exact ih.step t

/-! ## Starting a tick -/

theorem quiet_of_begins (t : Step r s)
    (begins : s.course.ticks.length ≠ r.course.ticks.length) :
    r.place = .top ∧ r.listener.channel.asked = false ∧ r.listener.channel.attended = true := by
  cases t with
  | submit i => exact absurd (r.course.length_ticks_submit i) begins
  | send value => exact absurd rfl begins
  | abandon => exact absurd rfl begins
  | move m =>
      cases m with
      | begin fresh since now place quiet =>
          simp only [stops, ShutdownChannel.stops, Bool.or_eq_false_iff,
            Bool.not_eq_false'] at quiet
          exact ⟨place, quiet⟩
      | work place busy move => exact absurd (Course.length_ticks_of_move move busy) begins
      | stop => exact absurd rfl begins
      | rest => exact absurd rfl begins
      | resume => exact absurd rfl begins
      | expire => exact absurd rfl begins
      | wake => exact absurd rfl begins
      | listen => exact absurd rfl begins

/-- The run only looks at the channel. -/
theorem channel_of_move (m : Move r s) : s.listener.channel = r.listener.channel := by
  cases m with
  | wake place changed => exact Listener.channel_of_changed? changed
  | _ => rfl

/-- Nobody comes back to a channel, and by a steady step shutdown stays asked for. -/
theorem stops_of_steady (t : Steady r s) (hr : r.stops = true) : s.stops = true := by
  simp only [stops, ShutdownChannel.stops, Bool.or_eq_true, Bool.not_eq_true'] at hr ⊢
  refine hr.imp t.2 fun hgone => ?_
  cases t.1 with
  | submit i => exact hgone
  | send value => simp only [Run.send, Listener.send, ShutdownChannel.send, hgone]; exact hgone
  | abandon => rfl
  | move m => rw [channel_of_move m]; exact hgone

/-- Once a run has to stop, no tick starts any more. -/
theorem length_ticks_of_stops (h : Relation.ReflTransGen Steady r s) (stops : r.stops = true) :
    s.stops = true ∧ s.course.ticks.length = r.course.ticks.length := by
  induction h with
  | refl => exact ⟨stops, rfl⟩
  | tail _ t ih =>
      refine ⟨stops_of_steady t ih.1, ?_⟩
      by_contra hne
      obtain ⟨_, hasked, hattended⟩ := quiet_of_begins t.1 (ih.2 ▸ hne)
      simp [Run.stops, ShutdownChannel.stops, hasked, hattended] at ih

/-! ## Returning -/

/-- A run returns only when it has to stop. -/
theorem stops_of_returns (h : r.Coherent settings) (t : Step r s) (place : r.place ≠ .returned)
    (returned : s.place = .returned) : s.stops = true := by
  cases t with
  | submit i => exact absurd returned place
  | send value => exact absurd returned place
  | abandon => exact absurd returned place
  | move m =>
      cases m with
      | stop _ stops => exact stops
      | begin => cases returned
      | work => exact absurd returned place
      | rest => dsimp only at returned; split at returned <;> cases returned
      | resume => cases returned
      | expire => cases returned
      | wake => cases returned
      | @listen value woken =>
          dsimp only at returned
          split at returned
          · rename_i hstop
            simp only [stops, ShutdownChannel.stops, Bool.or_eq_true, Bool.not_eq_true']
            refine hstop.symm.imp_right fun hvalue => h.unattended ?_
            rw [woken, hvalue]
          · cases returned

/-! ## The way to the end -/

/-- How many steps a run takes at most before it ends, once it has to stop. -/
def remaining (r : Run) : Nat :=
  match r.place with
  | .returned => 0
  | .top => 1
  | .woken value =>
    if value = false ∨ r.listener.channel.asked = true then 1 else 3 + r.listener.idleNews
  | .waiting => 2 + r.listener.idleNews
  | .yielding => 2
  | .ticking => 5 + r.course.remaining

/-- Away from the look at the channel, every step brings a run nearer to it, or to its end. -/
theorem remaining_lt_of_ne_top (h : r.Coherent settings) (away : r.place ≠ .top) (m : Move r s) :
    s.remaining < r.remaining := by
  have hnews := r.listener.idleNews_le
  cases m with
  | stop place => exact absurd place away
  | begin fresh since now place => exact absurd place away
  | work place busy move =>
      have hlt := h.course.coherent.remaining_lt move busy
      simp only [remaining, place]
      omega
  | rest elapsed place idle =>
      simp only [remaining, place]
      cases (idleTime elapsed r.course.scheduler.settings.tickRate).isSome
      · simp only [Bool.false_eq_true, if_false]
        omega
      · simp only [if_true]
        omega
  | resume place => simp only [remaining, place, Nat.lt_add_one]
  | expire place =>
      simp only [remaining, place]
      omega
  | @wake value l place changed =>
      simp only [remaining, place]
      split
      · omega
      · rename_i hvalue
        simp only [not_or, Bool.not_eq_false, Bool.not_eq_true] at hvalue
        have hlt := Listener.idleNews_lt_of_changed? (hvalue.1 ▸ changed) hvalue.2
        omega
  | @listen value place =>
      by_cases hstop : value = false ∨ r.listener.channel.asked = true
      · simp only [remaining, place, if_pos hstop, Nat.zero_lt_one]
      · simp only [remaining, place, if_neg hstop]
        omega

theorem remaining_lt (h : r.Coherent settings) (hstops : r.stops = true) (m : Move r s) :
    s.remaining < r.remaining := by
  by_cases place : r.place = .top
  · cases m with
    | stop => simp only [remaining, place, Nat.zero_lt_one]
    | begin fresh since now _ quiet =>
        rw [hstops] at quiet
        cases quiet
    | rest _ other => cases place.symm.trans other
    | _ other => cases place.symm.trans other
  · exact remaining_lt_of_ne_top h place m

theorem exists_move_of_stops (h : r.Coherent settings) (hstops : r.stops = true)
    (place : r.place ≠ .returned) : ∃ s, Move r s := by
  cases hplace : r.place with
  | top => exact ⟨_, .stop hplace hstops⟩
  | ticking =>
      by_cases idle : r.course.scheduler.phase = .idle
      · exact ⟨_, .rest ⟨0⟩ hplace idle⟩
      · obtain ⟨d, m⟩ := h.course.coherent.exists_move idle
        exact ⟨_, .work hplace idle m⟩
  | waiting => exact ⟨_, .expire hplace⟩
  | woken value => exact ⟨_, .listen hplace⟩
  | yielding => exact ⟨_, .resume hplace⟩
  | returned => exact absurd hplace place

/-- What is sent does not put the end off. -/
theorem remaining_send (hstops : r.stops = true) {value : Bool}
    (stays : r.listener.channel.asked = true → value = true) :
    (r.send value).remaining = r.remaining := by
  cases hasked : r.listener.channel.asked with
  | true =>
      obtain rfl := stays hasked
      have hstill : (r.listener.send true).channel.asked = true := by
        unfold Listener.send ShutdownChannel.send
        split
        · rfl
        · exact hasked
      simp only [remaining, Run.send, Listener.idleNews_of_asked hstill,
        Listener.idleNews_of_asked hasked, hstill, hasked]
  | false =>
      have hgone : r.listener.channel.attended = false := by
        simpa [stops, ShutdownChannel.stops, hasked] using hstops
      have hsame : r.listener.send value = r.listener := by
        simp only [Listener.send, ShutdownChannel.send, hgone, Bool.or_false]
        rfl
      rw [Run.send, hsame]

/-- Shutdown is heard between two ticks only. A tick starts only while nobody has asked and somebody
still could, and none starts any more once a run has to stop, as long as shutdown stays asked for. A
run returns only when it has to stop, and then every tick is over: every task has ended, the requeue
step has been taken, every match with a server has been announced, and the match of every drained
player has been dealt with; under the requeue policy the players of the failed matches wait. Once a
run has to stop it does return: it has a next step until then, every step brings the end nearer, and
nothing that comes in puts it off. -/
theorem shutdown_between_ticks (h : Reachable settings r) :
    (∀ s, Step r s → s.course.ticks.length ≠ r.course.ticks.length →
      r.place = .top ∧ r.listener.channel.asked = false ∧ r.listener.channel.attended = true) ∧
    (r.stops = true → ∀ s, Relation.ReflTransGen Steady r s →
      s.stops = true ∧ s.course.ticks.length = r.course.ticks.length) ∧
    (∀ s, Step r s → r.place ≠ .returned → s.place = .returned →
      s.listener.channel.asked = true ∨ s.listener.channel.attended = false) ∧
    (r.place = .returned → r.course.scheduler.phase = .idle ∧ ∀ t ∈ r.course.ticks,
      t.ended.Perm t.games ∧ t.settled = true ∧ t.told.map Prod.fst = placed t.ends ∧
      (∀ i ∈ t.drained, ∃ e ∈ t.ends, i.player ∈ e.game.players ∧
        ((∃ a, e.outcome.result = .ok a ∧ e.game.assign a ∈ t.told.map Prod.fst) ∨
          ∃ why, e.outcome.result = .error why ∧ e.game ∈ unplaced t.ends)) ∧
      (settings.failurePolicy = .requeue → r.course.ticks.head? = some t →
        ∀ m ∈ unplaced t.ends, ∀ p ∈ m.players,
          p ∈ r.course.scheduler.queue.intents.map Intent.player)) ∧
    (r.stops = true →
      (r.place ≠ .returned → ∃ s, Move r s) ∧ (∀ s, Move r s → s.remaining < r.remaining) ∧
      (∀ i, (r.submit i).remaining = r.remaining) ∧ r.abandon.remaining = r.remaining ∧
      ∀ value, (r.listener.channel.asked = true → value = true) →
        (r.send value).remaining = r.remaining) := by
  have hcoherent := h.coherent
  have hcourse := hcoherent.course.coherent
  refine ⟨fun s => quiet_of_begins, fun hstops s hs => length_ticks_of_stops hs hstops, ?_, ?_, ?_⟩
  · intro s t place returned
    have hstops := stops_of_returns hcoherent t place returned
    simpa only [stops, ShutdownChannel.stops, Bool.or_eq_true, Bool.not_eq_true'] using hstops
  · intro place
    have idle := hcoherent.idle (by simp [place])
    refine ⟨idle, fun t ht => ?_⟩
    have hsound : t.Sound settings := hcourse.sound t ht
    have hover : t.Over := hcourse.over_of_idle idle t ht
    refine ⟨hsound.ended_perm hover.all_ended, hover.settled, hover.told_eq,
      fun i => hsound.settled_of_drained hover, fun requeue head m hm p hp => ?_⟩
    obtain ⟨past, ticks⟩ := List.head?_eq_some_iff.mp head
    exact hcourse.waits_of_unplaced idle requeue ticks hm hp
  · intro hstops
    exact ⟨exists_move_of_stops hcoherent hstops, fun s => remaining_lt hcoherent hstops,
      fun i => rfl, rfl, fun value => remaining_send hstops⟩

/-! ## A run in which shutdown is asked for in the middle of a tick -/

/-- Every course is that of a run on a channel that nobody touches. -/
theorem reachable_of_course {c : Course} (h : c.Reachable settings) :
    ∃ place, Reachable settings ⟨c, .new false, place⟩ ∧
      (c.scheduler.phase = .idle → place = .top) ∧
      (c.scheduler.phase ≠ .idle → place = .ticking) := by
  induction h with
  | new => exact ⟨.top, .new false, fun _ => rfl, fun busy => absurd rfl busy⟩
  | @step c d _ t ih =>
      obtain ⟨place, hr, hidle, hbusy⟩ := ih
      cases t with
      | submit i => exact ⟨place, hr.step (.submit i), hidle, hbusy⟩
      | move m =>
          have hticking : Reachable settings ⟨d, .new false, .ticking⟩ := by
            by_cases idle : c.scheduler.phase = .idle
            · obtain ⟨fresh, since, now, rfl, distinct⟩ := Course.begins_of_idle m idle
              exact hr.step (.move (.begin fresh since now (hidle idle) rfl distinct))
            · obtain rfl := hbusy idle
              exact hr.step (.move (.work rfl idle m))
          by_cases idle : d.scheduler.phase = .idle
          · refine ⟨.top, ?_, fun _ => rfl, fun busy => absurd idle busy⟩
            have hrest := hticking.step (.move (.rest ⟨0⟩ rfl idle))
            cases hwait : (idleTime ⟨0⟩ d.scheduler.settings.tickRate).isSome with
            | true =>
                rw [hwait] at hrest
                exact hrest.step (.move (.expire rfl))
            | false =>
                rw [hwait] at hrest
                exact hrest.step (.move (.resume rfl))
          · exact ⟨.ticking, hticking, fun h => absurd h idle, fun _ => rfl⟩

/-- In the tick of the trial the value is first set to what it was and then shutdown is asked for.
The wait after the tick is cut short by the news. -/
def trial : Run := ⟨.trial, ⟨⟨true, true⟩, false⟩, .returned⟩

theorem trial_reachable : Reachable Course.trialSettings trial := by
  obtain ⟨place, hr, _, hbusy⟩ := reachable_of_course Course.trialEnded_reachable
  obtain rfl := hbusy Phase.noConfusion
  obtain ⟨hsettle, hannounce, hfinish, idle⟩ := Course.trialEnded_moves
  have hsettled := ((hr.step (.send false)).step
    (.move (.work rfl (Course.busy_of_move hsettle rfl) hsettle))).step (.submit ⟨⟨2⟩, true⟩)
  have hannounced := (hsettled.step (.send true)).step
    (.move (.work rfl (Course.busy_of_move hannounce rfl) hannounce))
  have hover := hannounced.step (.move (.work rfl (Course.busy_of_move hfinish rfl) hfinish))
  have hwaiting := hover.step (.move (.rest ⟨5000000⟩ rfl idle))
  have hwait : (idleTime ⟨5000000⟩ Course.trial.scheduler.settings.tickRate).isSome = true := by
    rw [Course.trial_reachable.1.coherent.settings_eq]
    decide
  have hwoken := hwaiting.step (.move (.wake (if_pos hwait) rfl))
  exact hwoken.step (.move (@Move.listen _ true rfl))

/-- No tick follows, the match with a server has been announced, and of the two failed matches both
players wait. -/
theorem trial_shut_down :
    trial.course.scheduler.phase = .idle ∧
    (∀ s, Relation.ReflTransGen Steady trial s → s.course.ticks.length = 1) ∧
    Course.trialTick.told.map Prod.fst = placed Course.trialTick.ends ∧
    (⟨2⟩ : PlayerId) ∈ trial.course.scheduler.queue.intents.map Intent.player := by
  obtain ⟨_, hnone, _, hover, _⟩ := shutdown_between_ticks trial_reachable
  obtain ⟨idle, hticks⟩ := hover rfl
  obtain ⟨_, _, htold, _, hwait⟩ := hticks Course.trialTick List.mem_cons_self
  exact ⟨idle, fun s hs => (hnone rfl s hs).2, htold,
    hwait rfl rfl (Course.trialGame 2 false) (by decide) ⟨2⟩ (by decide)⟩

end Coherent

end Run

end Matchmaking
