import Matchmaking.Proofs.Scheduler.Record

/-!
# Every course is coherent

In every course the scheduler stands where its history says: the queue holds what the latest tick
left and what came in since, the batch stands where the ends of its tasks lead, and the numbers of
the tick count what has happened.
-/

namespace Matchmaking

open Time Allocation Entries

/-! ## The requeue step -/

namespace Scheduler

section GiveBack

variable {q : TicketQueue}

theorem wellFormed_giveBack (h : q.WellFormed) (policy : FailurePolicy) (failed : List Match) :
    (giveBack policy failed q).2.1.WellFormed := by
  unfold giveBack
  split
  · exact h.requeue _
  · exact h

theorem giveBack_drop (failed : List Match) (q : TicketQueue) :
    giveBack .drop failed q = (0, q, []) := by
  unfold giveBack
  rw [if_neg fun h => FailurePolicy.noConfusion h.1]

/-- The wishes of failed matches come in front, unless their players wait again. -/
theorem giveBack_requeue (h : q.WellFormed) (failed : List Match) :
    (giveBack .requeue failed q).2.1.intents =
        newcomers q.intents (intentsOf failed) ++ q.intents ∧
      (giveBack .requeue failed q).1 = (newcomers q.intents (intentsOf failed)).length := by
  unfold giveBack
  by_cases hf : failed = []
  · rw [if_neg fun h => h.2 hf, hf]
    exact ⟨rfl, rfl⟩
  · rw [if_pos ⟨rfl, hf⟩]
    exact ⟨h.intents_requeue _, h.restored_requeue _⟩

/-- What the requeue step of a tick puts back, in front of what waits. -/
theorem giveBack_unplaced (h : q.WellFormed) (t : TickRecord)
    (hd : ∀ p, p ∈ q.intents.map Intent.player ↔ p ∈ t.during.map Intent.player)
    (policy : FailurePolicy) :
    (giveBack policy (unplaced t.ends) q).2.1.intents = t.givenBack policy ++ q.intents ∧
      (giveBack policy (unplaced t.ends) q).1 = (t.givenBack policy).length := by
  cases policy with
  | drop =>
      rw [giveBack_drop]
      exact ⟨rfl, rfl⟩
  | requeue =>
      rw [TickRecord.givenBack, ← newcomers_congr hd]
      exact giveBack_requeue h _

end GiveBack

theorem settle_of_all_ended {s : Scheduler} {since : Nat} {stats : TickStats} {batch : FanOut}
    (phase : s.phase = .allocating since stats batch) (ended : batch.running = 0) :
    s.settle.1 = { s with
      queue := (giveBack s.settings.failurePolicy batch.failed s.queue).2.1
      phase := .announcing since { stats with
        matchesAllocated := batch.allocated.length
        matchesFailed := batch.failed.length
        playersRequeued := (giveBack s.settings.failurePolicy batch.failed s.queue).1 }
        batch.allocated } := by
  simp only [settle, phase, ended, if_true]

theorem announced_of_announcing {s : Scheduler} {since : Nat} {stats : TickStats} {m : Match}
    {left : List Match} (phase : s.phase = .announcing since stats (m :: left)) (v : Verdict) :
    (s.announced v).1 = { s with
      phase := .announcing since { stats with
        notificationsFailed := stats.notificationsFailed + if v.isSome then 1 else 0 } left } := by
  cases v <;> simp [announced, phase]

end Scheduler

/-! ## The numbers of a tick -/

/-- The numbers count what has happened in a tick. -/
structure TickRecord.Counts (policy : FailurePolicy) (t : TickRecord) (stats : TickStats) :
    Prop where
  playersDrained : stats.playersDrained = t.drained.length
  matchesCreated : stats.matchesCreated = t.batch.length
  matchesAllocated : stats.matchesAllocated = (placed t.ends).length
  matchesFailed : stats.matchesFailed = (unplaced t.ends).length
  notificationsFailed : stats.notificationsFailed = t.told.countP (·.2.isSome)
  playersRequeued : stats.playersRequeued = (t.givenBack policy).length

namespace Course

/-! ## Where a scheduler stands -/

/-- The phase of the scheduler agrees with the latest tick. -/
inductive Stage (c : Course) : Prop where
  | new (idle : c.scheduler.phase = .idle) (ticks : c.ticks = [])
  | waiting {t : TickRecord} {past : List TickRecord} {since : Nat} {batch : FanOut}
      (phase : c.scheduler.phase =
        .allocating since (.begun t.drained.length t.batch.length) batch)
      (ticks : c.ticks = t :: past) (unsettled : t.settled = false) (untold : t.told = [])
      (unheard : t.after = []) (tracks : batch.Tracks t.batch t.ends)
  | announcing {t : TickRecord} {past : List TickRecord} {since : Nat} {stats : TickStats}
      {left : List Match} (phase : c.scheduler.phase = .announcing since stats left)
      (ticks : c.ticks = t :: past) (closed : t.Closed)
      (told : t.told.map Prod.fst ++ left = placed t.ends)
      (counts : t.Counts c.scheduler.settings.failurePolicy stats)
  | rest {t : TickRecord} {past : List TickRecord} {stats : TickStats}
      (idle : c.scheduler.phase = .idle) (ticks : c.ticks = t :: past) (complete : t.Over)
      (last : c.scheduler.lastTick = some stats)
      (counts : t.Counts c.scheduler.settings.failurePolicy stats)

/-- What holds of every course. -/
structure Coherent (settings : Settings) (c : Course) : Prop where
  settings_eq : c.scheduler.settings = settings
  queue : c.scheduler.queue.WellFormed
  sound : ∀ t ∈ c.ticks, t.Sound settings
  past : ∀ t ∈ c.ticks.tail, t.Over
  stage : c.Stage
  /-- The queue holds what the latest tick left and what came in since. -/
  entries : ∀ t past, c.ticks = t :: past →
    c.scheduler.queue.intents = t.entries settings.failurePolicy

section Coherent

variable {settings : Settings} {c : Course}

theorem coherent_new (settings : Settings) : (new settings).Coherent settings where
  settings_eq := rfl
  queue := TicketQueue.wellFormed_empty
  sound := fun t ht => absurd ht List.not_mem_nil
  past := fun t ht => absurd ht List.not_mem_nil
  stage := .new rfl rfl
  entries := fun t past ht => by cases ht

/-! ## What the phase tells -/

theorem Coherent.of_idle (h : c.Coherent settings) (idle : c.scheduler.phase = .idle) :
    c.ticks = [] ∨ ∃ t past stats, c.ticks = t :: past ∧ t.Over ∧
      c.scheduler.lastTick = some stats ∧ t.Counts settings.failurePolicy stats := by
  cases h.stage with
  | new _ ticks => exact Or.inl ticks
  | rest _ ticks complete last counts =>
      exact Or.inr ⟨_, _, _, ticks, complete, last, h.settings_eq ▸ counts⟩
  | waiting phase => rw [idle] at phase; cases phase
  | announcing phase => rw [idle] at phase; cases phase

theorem Coherent.of_allocating (h : c.Coherent settings) {since : Nat} {stats : TickStats}
    {batch : FanOut} (phase : c.scheduler.phase = .allocating since stats batch) :
    ∃ t past, c.ticks = t :: past ∧ stats = .begun t.drained.length t.batch.length ∧
      t.settled = false ∧ t.told = [] ∧ t.after = [] ∧ batch.Tracks t.batch t.ends := by
  cases h.stage with
  | new idle => rw [idle] at phase; cases phase
  | rest idle => rw [idle] at phase; cases phase
  | announcing other => rw [other] at phase; cases phase
  | waiting same ticks unsettled untold unheard tracks =>
      rw [same] at phase
      cases phase
      exact ⟨_, _, ticks, rfl, unsettled, untold, unheard, tracks⟩

theorem Coherent.of_allocating_head (h : c.Coherent settings) {t : TickRecord} {since : Nat}
    {stats : TickStats} {batch : FanOut}
    (phase : c.scheduler.phase = .allocating since stats batch) (head : c.ticks.head? = some t) :
    ∃ past, c.ticks = t :: past ∧ t.Sound settings ∧
      stats = .begun t.drained.length t.batch.length ∧ t.settled = false ∧ t.told = [] ∧
      t.after = [] ∧ batch.Tracks t.batch t.ends := by
  obtain ⟨u, past, ticks, hstats, unsettled, untold, unheard, tracks⟩ := h.of_allocating phase
  obtain rfl : u = t := by
    rw [ticks] at head
    exact Option.some.inj head
  have hsound : u.Sound settings := h.sound u (ticks ▸ List.mem_cons_self)
  exact ⟨past, ticks, hsound, hstats, unsettled, untold, unheard, tracks⟩

/-- Once every match's task has ended, no task of the batch runs. -/
theorem Coherent.running_eq_zero (h : c.Coherent settings) {t : TickRecord} {since : Nat}
    {stats : TickStats} {batch : FanOut}
    (phase : c.scheduler.phase = .allocating since stats batch) (head : c.ticks.head? = some t)
    (ended : ∀ m ∈ t.games, m ∈ t.ended) : batch.running = 0 := by
  obtain ⟨past, _, hsound, _, _, _, _, tracks⟩ := h.of_allocating_head phase head
  have hrunning := tracks.running
  rw [hsound.length_ends_eq ended] at hrunning
  omega

theorem Coherent.of_announcing (h : c.Coherent settings) {since : Nat} {stats : TickStats}
    {left : List Match} (phase : c.scheduler.phase = .announcing since stats left) :
    ∃ t past, c.ticks = t :: past ∧ t.Closed ∧ t.told.map Prod.fst ++ left = placed t.ends ∧
      t.Counts settings.failurePolicy stats := by
  cases h.stage with
  | new idle => rw [idle] at phase; cases phase
  | rest idle => rw [idle] at phase; cases phase
  | waiting other => rw [other] at phase; cases phase
  | announcing same ticks closed told counts =>
      rw [same] at phase
      cases phase
      exact ⟨_, _, ticks, closed, told, h.settings_eq ▸ counts⟩

/-- Before the requeue step the queue holds what has come in since the drain. -/
theorem Coherent.intents_of_unsettled (h : c.Coherent settings) {t : TickRecord}
    {past : List TickRecord} (ticks : c.ticks = t :: past) (unsettled : t.settled = false) :
    c.scheduler.queue.intents = writeAll [] t.during := by
  rw [h.entries t past ticks, TickRecord.entries, unsettled]
  rfl

/-- Between two ticks every tick that has started is over. -/
theorem Coherent.over_of_idle (h : c.Coherent settings) (idle : c.scheduler.phase = .idle) :
    ∀ t ∈ c.ticks, t.Over := by
  intro t ht
  rcases h.of_idle idle with hnone | ⟨u, past, stats, hu, complete, _⟩
  · rw [hnone] at ht
    cases ht
  · have hpast := h.past
    rw [hu] at ht hpast
    rcases List.mem_cons.mp ht with rfl | ht
    · exact complete
    · exact hpast t ht

/-- A tick has taken its requeue step after the end of every task, or it is the latest and waits for
servers. -/
theorem Coherent.closed_or_waiting (h : c.Coherent settings) {t : TickRecord} (ht : t ∈ c.ticks) :
    t.Closed ∨ t.settled = false ∧ c.ticks.head? = some t ∧
      ∃ since stats batch, c.scheduler.phase = .allocating since stats batch := by
  cases hc : c.ticks with
  | nil =>
      rw [hc] at ht
      cases ht
  | cons u past =>
      have hpast := h.past
      rw [hc] at ht hpast
      rcases List.mem_cons.mp ht with rfl | ht
      · cases h.stage with
        | new _ ticks =>
            rw [hc] at ticks
            cases ticks
        | waiting phase ticks unsettled =>
            rw [hc] at ticks
            cases ticks
            exact Or.inr ⟨unsettled, rfl, _, _, _, phase⟩
        | announcing _ ticks closed =>
            rw [hc] at ticks
            cases ticks
            exact Or.inl closed
        | rest _ ticks complete =>
            rw [hc] at ticks
            cases ticks
            exact Or.inl complete.toClosed
      · exact Or.inl (hpast t ht).toClosed

/-- After the requeue step the matches with a server are to be announced. -/
theorem Coherent.phase_settle (h : c.Coherent settings) {t : TickRecord} {since : Nat}
    {stats : TickStats} {batch : FanOut}
    (phase : c.scheduler.phase = .allocating since stats batch) (head : c.ticks.head? = some t)
    (ended : ∀ m ∈ t.games, m ∈ t.ended) :
    ∃ stats, c.settle.scheduler.phase = .announcing since stats (placed t.ends) := by
  obtain ⟨past, _, _, _, _, _, _, tracks⟩ := h.of_allocating_head phase head
  have hzero := h.running_eq_zero phase head ended
  rw [← tracks.allocated]
  exact ⟨_, congrArg Scheduler.phase (Scheduler.settle_of_all_ended phase hzero)⟩

/-! ## A wish comes in -/

theorem Coherent.submit (h : c.Coherent settings) (i : Intent) :
    (c.submit i).Coherent settings where
  settings_eq := h.settings_eq
  queue := h.queue.submit i
  sound := by
    intro t ht
    cases hc : c.ticks with
    | nil => simp [Course.submit, hc] at ht
    | cons u past =>
        have hsound := h.sound
        rw [hc] at hsound
        simp only [Course.submit, hc, List.modifyHead_cons, List.mem_cons] at ht
        rcases ht with rfl | ht
        · exact (hsound u List.mem_cons_self).hear i
        · exact hsound t (List.mem_cons_of_mem _ ht)
  past := by
    intro t ht
    apply h.past t
    cases hc : c.ticks with
    | nil => simp [Course.submit, hc] at ht
    | cons u past => simpa [Course.submit, hc] using ht
  stage := by
    cases h.stage with
    | new idle ticks => exact .new idle (by simp [Course.submit, ticks])
    | @waiting t past _ _ phase ticks unsettled untold unheard tracks =>
        have hticks : (c.submit i).ticks = { t with during := t.during ++ [i] } :: past := by
          simp only [Course.submit, ticks, List.modifyHead_cons, t.hear_of_unsettled i unsettled]
        exact .waiting (t := { t with during := t.during ++ [i] }) phase hticks unsettled untold
          unheard tracks
    | @announcing t past _ _ _ phase ticks closed told counts =>
        have hticks : (c.submit i).ticks = { t with after := t.after ++ [i] } :: past := by
          simp only [Course.submit, ticks, List.modifyHead_cons, t.hear_of_settled i closed.settled]
        exact .announcing (t := { t with after := t.after ++ [i] }) phase hticks
          ⟨closed.settled, closed.all_ended⟩ told
          ⟨counts.1, counts.2, counts.3, counts.4, counts.5, counts.6⟩
    | @rest t past _ idle ticks complete last counts =>
        have hticks : (c.submit i).ticks = { t with after := t.after ++ [i] } :: past := by
          simp only [Course.submit, ticks, List.modifyHead_cons, t.hear_of_settled i complete.settled]
        exact .rest (t := { t with after := t.after ++ [i] }) idle hticks
          ⟨⟨complete.settled, complete.all_ended⟩, complete.told_eq⟩ last
          ⟨counts.1, counts.2, counts.3, counts.4, counts.5, counts.6⟩
  entries := by
    intro t past ht
    cases hc : c.ticks with
    | nil => simp [Course.submit, hc] at ht
    | cons u older =>
        simp only [Course.submit, hc, List.modifyHead_cons, List.cons.injEq] at ht
        rw [← ht.1, TickRecord.entries_hear, ← h.entries u older hc]
        exact h.queue.intents_submit i

/-! ## The steps of a tick -/

theorem Coherent.begin (h : c.Coherent settings) (fresh : Nat → MatchId) (since : Nat)
    (now : Timestamp) (idle : c.scheduler.phase = .idle)
    (distinct : ((gamesOf (c.scheduler.begin fresh since now).2.1).map Match.id).Nodup) :
    (c.begin fresh since now).Coherent settings where
  settings_eq := h.settings_eq
  queue := TicketQueue.wellFormed_empty
  sound := by
    intro t ht
    rcases List.mem_cons.mp ht with rfl | ht
    · refine ⟨h.queue, ⟨fresh, c.scheduler.made, now, ?_⟩, distinct, List.nil_subset _,
        List.nodup_nil⟩
      rw [← h.settings_eq]
      rfl
    · exact h.sound t ht
  past := h.over_of_idle idle
  stage := .waiting rfl rfl rfl rfl rfl (FanOut.tracks_start distinct)
  entries := by
    intro t past ht
    rw [← (List.cons.inj ht).1]
    rfl

/-- A step that leaves settings alone and changes nothing of the past but the latest record. -/
private theorem Coherent.of_head {d : Course} (h : c.Coherent settings) {t u : TickRecord}
    {past : List TickRecord} (hc : c.ticks = t :: past) (hd : d.ticks = u :: past)
    (hsettings : d.scheduler.settings = c.scheduler.settings)
    (queue : d.scheduler.queue.WellFormed) (sound : u.Sound settings) (stage : d.Stage)
    (entries : d.scheduler.queue.intents = u.entries settings.failurePolicy) :
    d.Coherent settings where
  settings_eq := hsettings.trans h.settings_eq
  queue := queue
  sound := by
    intro r hr
    rw [hd] at hr
    rcases List.mem_cons.mp hr with rfl | hr
    · exact sound
    · exact h.sound r (hc ▸ List.mem_cons_of_mem _ hr)
  past := by
    have hpast := h.past
    rw [hc] at hpast
    rw [hd]
    exact hpast
  stage := stage
  entries := by
    intro r older hr
    rw [hd] at hr
    rw [← (List.cons.inj hr).1]
    exact entries

theorem Coherent.resolve (h : c.Coherent settings) {t : TickRecord} {since : Nat}
    {stats : TickStats} {batch : FanOut} (m : Match) (o : Outcome)
    (phase : c.scheduler.phase = .allocating since stats batch) (head : c.ticks.head? = some t)
    (made : m ∈ t.games) (running : m ∉ t.ended) : (c.resolve m o).Coherent settings := by
  obtain ⟨past, ticks, hsound, rfl, unsettled, untold, unheard, tracks⟩ :=
    h.of_allocating_head phase head
  have hticks : (c.resolve m o).ticks = { t with ends := t.ends ++ [⟨m, o⟩] } :: past := by
    simp only [Course.resolve, ticks, List.modifyHead_cons]
  have hscheduler : (c.resolve m o).scheduler = { c.scheduler with
      phase := .allocating since (.begun t.drained.length t.batch.length)
        (batch.resolve m.id o).1 } := by
    simp only [Course.resolve, Scheduler.resolve, phase]
  have hended : (t.ends ++ [Ending.mk m o]).map Ending.game = t.ended ++ [m] := List.map_append
  refine h.of_head ticks hticks ?_ ?_ ?_ ?_ ?_
  · rw [hscheduler]
  · rw [hscheduler]
    exact h.queue
  · refine ⟨hsound.found, hsound.batch, hsound.distinct, ?_, ?_⟩
    · intro n hn
      rw [TickRecord.ended, hended, List.mem_append, List.mem_singleton] at hn
      rcases hn with hn | rfl
      · exact hsound.ended_subset hn
      · exact made
    · rw [TickRecord.ended, hended]
      exact List.nodup_append_comm.mp (List.nodup_cons.mpr ⟨running, hsound.ended_nodup⟩)
  · have hphase : (c.resolve m o).scheduler.phase = .allocating since
        (.begun t.drained.length t.batch.length) (batch.resolve m.id o).1 := by
      rw [hscheduler]
    exact .waiting (t := { t with ends := t.ends ++ [⟨m, o⟩] }) hphase hticks unsettled untold
      unheard
      (tracks.resolve hsound.distinct made running (hsound.length_ends_lt made running) o)
  · rw [hscheduler]
    have hentries := h.entries t past ticks
    simp only [TickRecord.entries, unsettled] at hentries ⊢
    exact hentries

theorem Coherent.settle (h : c.Coherent settings) {t : TickRecord} {since : Nat}
    {stats : TickStats} {batch : FanOut}
    (phase : c.scheduler.phase = .allocating since stats batch) (head : c.ticks.head? = some t)
    (ended : ∀ m ∈ t.games, m ∈ t.ended) : c.settle.Coherent settings := by
  obtain ⟨past, ticks, hsound, rfl, unsettled, untold, unheard, tracks⟩ :=
    h.of_allocating_head phase head
  have hticks : c.settle.ticks = { t with settled := true } :: past := by
    simp only [Course.settle, ticks, List.modifyHead_cons]
  have hzero : batch.running = 0 := h.running_eq_zero phase head ended
  have hscheduler : c.settle.scheduler = _ := Scheduler.settle_of_all_ended phase hzero
  rw [tracks.failed, tracks.allocated, h.settings_eq] at hscheduler
  have hentries := h.intents_of_unsettled ticks unsettled
  have hwait : ∀ p, p ∈ c.scheduler.queue.intents.map Intent.player ↔
      p ∈ t.during.map Intent.player := by
    intro p
    rw [hentries, mem_players_writeAll]
    simp
  obtain ⟨hback, hcount⟩ :=
    Scheduler.giveBack_unplaced h.queue t hwait settings.failurePolicy
  refine h.of_head ticks hticks ?_ ?_ ?_ ?_ ?_
  · rw [hscheduler]
    exact h.settings_eq.symm
  · rw [hscheduler]
    exact Scheduler.wellFormed_giveBack h.queue _ _
  · exact ⟨hsound.found, hsound.batch, hsound.distinct, hsound.ended_subset, hsound.ended_nodup⟩
  · refine .announcing (t := { t with settled := true }) (by rw [hscheduler])
      hticks ⟨rfl, ended⟩ ?_ ?_
    · rw [untold]
      rfl
    · rw [hscheduler]
      refine ⟨rfl, rfl, rfl, rfl, ?_, hcount⟩
      rw [untold]
      rfl
  · rw [hscheduler]
    simp only [TickRecord.entries, unheard]
    rw [hback, hentries]
    rfl

theorem Coherent.announce (h : c.Coherent settings) {since : Nat} {stats : TickStats} {m : Match}
    {left : List Match} (v : Verdict)
    (phase : c.scheduler.phase = .announcing since stats (m :: left)) :
    (c.announce m v).Coherent settings := by
  obtain ⟨t, past, ticks, closed, told, counts⟩ := h.of_announcing phase
  have hsound : t.Sound settings := h.sound t (ticks ▸ List.mem_cons_self)
  have hticks : (c.announce m v).ticks = { t with told := t.told ++ [(m, v)] } :: past := by
    simp only [Course.announce, ticks, List.modifyHead_cons]
  have hscheduler : (c.announce m v).scheduler = _ := Scheduler.announced_of_announcing phase v
  refine h.of_head ticks hticks ?_ ?_ ?_ ?_ ?_
  · rw [hscheduler]
  · rw [hscheduler]
    exact h.queue
  · exact ⟨hsound.found, hsound.batch, hsound.distinct, hsound.ended_subset, hsound.ended_nodup⟩
  · refine .announcing (t := { t with told := t.told ++ [(m, v)] }) (by rw [hscheduler]) hticks
      ⟨closed.settled, closed.all_ended⟩ ?_ ?_
    · rw [List.map_append, List.append_assoc]
      exact told
    · rw [hscheduler, h.settings_eq]
      refine ⟨counts.1, counts.2, counts.3, counts.4, ?_, counts.6⟩
      rw [List.countP_append, ← counts.notificationsFailed, List.countP_singleton]
  · rw [hscheduler]
    exact h.entries t past ticks

theorem Coherent.finish (h : c.Coherent settings) {since : Nat} {stats : TickStats}
    (elapsed : Nat) (now : Timestamp) (phase : c.scheduler.phase = .announcing since stats []) :
    (c.finish elapsed now).Coherent settings := by
  obtain ⟨t, past, ticks, closed, told, counts⟩ := h.of_announcing phase
  have hsound : t.Sound settings := h.sound t (ticks ▸ List.mem_cons_self)
  have hscheduler : (c.finish elapsed now).scheduler = { c.scheduler with
      phase := .idle
      lastTick := some { stats with
        durationMillis := elapsed - since, completedAt := some now } } := by
    simp only [Course.finish, Scheduler.finish, phase]
  refine h.of_head ticks (d := c.finish elapsed now) ticks ?_ ?_ hsound ?_ ?_
  · rw [hscheduler]
  · rw [hscheduler]
    exact h.queue
  · refine .rest (by rw [hscheduler]) ticks ⟨closed, ?_⟩ (by rw [hscheduler]) ?_
    · rw [← told, List.append_nil]
    · rw [hscheduler, h.settings_eq]
      exact ⟨counts.1, counts.2, counts.3, counts.4, counts.5, counts.6⟩
  · rw [hscheduler]
    exact h.entries t past ticks

end Coherent

/-- Every course is coherent. -/
theorem Reachable.coherent {settings : Settings} {c : Course} (h : Reachable settings c) :
    c.Coherent settings := by
  induction h with
  | new => exact coherent_new settings
  | step _ s ih =>
      cases s with
      | submit i => exact ih.submit i
      | move m =>
          cases m with
          | begin fresh since now idle distinct => exact ih.begin fresh since now idle distinct
          | resolve m o phase head made running => exact ih.resolve m o phase head made running
          | settle phase head ended => exact ih.settle phase head ended
          | announce v phase => exact ih.announce v phase
          | finish elapsed now phase => exact ih.finish elapsed now phase

/-! ## A tick in which matches fail -/

def trialSettings : Settings :=
  { Settings.standard with playersPerMatch := 1, failurePolicy := .requeue }

def trialMoment : Timestamp where
  date := ⟨2024, 2, 29, by decide, by decide, by decide⟩
  hour := ⟨12, by decide⟩
  minute := ⟨0, by decide⟩
  second := ⟨0, by decide⟩
  nano := ⟨0, by decide⟩

def trialGame (player : BitVec 128) (autoTeleport : Bool) : Match :=
  trialSettings.assembler.build ⟨player⟩ trialMoment [⟨⟨player⟩, autoTeleport⟩]

def trialServer : Assignment := ⟨"lobby-1", "10.0.0.1", 25565, none, none⟩

def trialAnswer : Response := ⟨some .allocated, "lobby-1", "10.0.0.1", [⟨"game", 25565⟩], .empty⟩

def trialWaiting : Course :=
  (((new trialSettings).submit ⟨⟨0⟩, true⟩).submit ⟨⟨1⟩, false⟩).submit ⟨⟨2⟩, false⟩

def trialBatch : List PendingMatch :=
  (trialWaiting.scheduler.begin (fun k => ⟨BitVec.ofNat 128 k⟩) 0 trialMoment).2.1

/-- The tasks of all three matches have ended, two of them without a server. Meanwhile one of the
two players has asked again. -/
def trialEnded : Course :=
  ((((trialWaiting.begin (fun k => ⟨BitVec.ofNat 128 k⟩) 0 trialMoment).resolve
    (trialGame 2 false) (.crashed "3" "out of memory")).submit ⟨⟨1⟩, true⟩).resolve
    (trialGame 0 true) (.answered trialAnswer)).resolve
    (trialGame 1 false) (.refused (.transport "no route"))

/-- The other player has been put back and asks again, and the announcement is lost. -/
def trialAnnounced : Course :=
  (trialEnded.settle.submit ⟨⟨2⟩, true⟩).announce ((trialGame 0 true).assign trialServer)
    (some (.transport "no answer"))

def trial : Course := trialAnnounced.finish 5 trialMoment

def trialTick : TickRecord where
  found := trialWaiting.scheduler.queue
  batch := trialBatch
  ends := [⟨trialGame 2 false, .crashed "3" "out of memory"⟩,
    ⟨trialGame 0 true, .answered trialAnswer⟩,
    ⟨trialGame 1 false, .refused (.transport "no route")⟩]
  during := [⟨⟨1⟩, true⟩]
  settled := true
  after := [⟨⟨2⟩, true⟩]
  told := [((trialGame 0 true).assign trialServer, some (.transport "no answer"))]

theorem trialWaiting_reachable : Reachable trialSettings trialWaiting :=
  .step (.step (.step .new (.submit _)) (.submit _)) (.submit _)

theorem trialWaiting_intents :
    trialWaiting.scheduler.queue.intents = [⟨⟨0⟩, true⟩, ⟨⟨1⟩, false⟩, ⟨⟨2⟩, false⟩] := by
  have hfirst := TicketQueue.wellFormed_empty.submit ⟨⟨0⟩, true⟩
  have hsecond := hfirst.submit ⟨⟨1⟩, false⟩
  refine (hsecond.intents_submit _).trans ?_
  rw [hfirst.intents_submit, TicketQueue.wellFormed_empty.intents_submit]
  rfl

theorem gamesOf_trialBatch :
    gamesOf trialBatch = [trialGame 0 true, trialGame 1 false, trialGame 2 false] := by
  change gamesOf (trialSettings.assembler.assemble (fun k => ⟨BitVec.ofNat 128 k⟩) 0 trialMoment
    trialWaiting.scheduler.queue.intents) = _
  rw [trialWaiting_intents]
  rfl

theorem trialEnded_reachable : Reachable trialSettings trialEnded := by
  have hmade {m : Match} (hm : m ∈ [trialGame 0 true, trialGame 1 false, trialGame 2 false]) :
      m ∈ gamesOf trialBatch := gamesOf_trialBatch ▸ hm
  have hbegun := trialWaiting_reachable.step
    (.move (.begin (fun k => ⟨BitVec.ofNat 128 k⟩) 0 trialMoment rfl (by
      change ((gamesOf trialBatch).map Match.id).Nodup
      rw [gamesOf_trialBatch]
      decide)))
  have hfirst := hbegun.step (.move (.resolve (trialGame 2 false) (.crashed "3" "out of memory")
    rfl rfl (hmade (by decide)) (by decide)))
  have hsubmit := hfirst.step (.submit ⟨⟨1⟩, true⟩)
  have hsecond := hsubmit.step (.move (.resolve (trialGame 0 true) (.answered trialAnswer)
    rfl rfl (hmade (by decide)) (by decide)))
  exact hsecond.step (.move (.resolve (trialGame 1 false) (.refused (.transport "no route"))
    rfl rfl (hmade (by decide)) (by decide)))

/-- The steps from the end of the last task to the end of the tick. -/
theorem trialEnded_moves : Move trialEnded trialEnded.settle ∧
    Move (trialEnded.settle.submit ⟨⟨2⟩, true⟩) trialAnnounced ∧
    Move trialAnnounced trial ∧ trial.scheduler.phase = .idle := by
  have hended : ∀ m ∈ gamesOf trialBatch, m ∈ trialTick.ended := by
    rw [gamesOf_trialBatch]
    decide
  obtain ⟨stats, phase⟩ : ∃ stats, trialEnded.settle.scheduler.phase =
      .announcing 0 stats [(trialGame 0 true).assign trialServer] :=
    trialEnded_reachable.coherent.phase_settle rfl rfl hended
  have hphase := congrArg Scheduler.phase (Scheduler.announced_of_announcing
    (s := (trialEnded.settle.submit ⟨⟨2⟩, true⟩).scheduler) phase (some (.transport "no answer")))
  refine ⟨.settle rfl rfl hended, .announce _ phase, .finish 5 trialMoment hphase, ?_⟩
  simp only [trial, trialAnnounced, Course.finish, Scheduler.finish, Course.announce, hphase]

theorem trial_reachable :
    Reachable trialSettings trial ∧ trial.scheduler.phase = .idle := by
  obtain ⟨hsettle, hannounce, hfinish, idle⟩ := trialEnded_moves
  have hsettled := (trialEnded_reachable.step (.move hsettle)).step (.submit ⟨⟨2⟩, true⟩)
  exact ⟨(hsettled.step (.move hannounce)).step (.move hfinish), idle⟩

theorem trial_ticks : trial.ticks = [trialTick] := rfl

theorem trial_intents : trial.scheduler.queue.intents = [⟨⟨2⟩, true⟩, ⟨⟨1⟩, true⟩] :=
  trial_reachable.1.coherent.entries trialTick [] trial_ticks

end Course

end Matchmaking
