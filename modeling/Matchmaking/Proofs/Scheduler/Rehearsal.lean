import Mathlib.Data.List.SplitBy
import Matchmaking.Proofs.Scheduler.Shutdown
import Matchmaking.Rehearsal.World

/-!
# A rehearsal is a run

However the partners of a rehearsal answer and whatever comes in meanwhile, a rehearsed tick takes
the steps of a run, from the look at the channel to the next wait, and so does a rehearsal from its
start until shutdown.
-/

namespace Matchmaking.Rehearsal

open Allocation

/-! ## The plan of a batch -/

section Plan

private theorem flatMap_perm_flatten {α : Type} {f : List α → List α} (hf : ∀ xs, (f xs).Perm xs)
    (xss : List (List α)) : (xss.flatMap f).Perm xss.flatten := by
  induction xss with
  | nil => exact .refl _
  | cons xs xss ih =>
      rw [List.flatMap_cons, List.flatten_cons]
      exact (hf xs).append ih

variable (turns : Turns) (tasks : List Task)

theorem order_perm : (turns.order tasks).Perm tasks := by
  have hrounds := flatMap_perm_flatten (inTurns_perm turns.answers) (rounds turns.tasks tasks)
  rwa [flatten_rounds] at hrounds

/-- Every task of a batch ends in one round. -/
theorem plan_perm : ((turns.plan tasks).flatMap Round.ended).Perm tasks := by
  have hnow : ((rounds turns.tasks tasks).flatMap fun ts =>
      inTurns turns.answers (ts.filter (·.reply.delay == 0))).Perm
        (tasks.filter (·.reply.delay == 0)) := by
    have hrounds := flatMap_perm_flatten (inTurns_perm turns.answers)
      ((rounds turns.tasks tasks).map (List.filter (·.reply.delay == 0)))
    rwa [← List.filter_flatten, flatten_rounds, List.flatMap_map] at hrounds
  have hlater : (((byEnd (tasks.filter (!·.reply.delay == 0))).splitBy
      fun a b => a.reply.delay == b.reply.delay).flatMap turns.order).Perm
        (tasks.filter (!·.reply.delay == 0)) := by
    refine (flatMap_perm_flatten (order_perm turns) _).trans ?_
    rw [List.flatten_splitBy]
    exact List.mergeSort_perm _ _
  rw [Turns.plan, List.flatMap_append, List.flatMap_map, List.flatMap_map]
  exact (hnow.append hlater).trans (List.filter_append_perm _ _)

theorem ids_callAll (a : AllocatorModel) (pending : List PendingMatch) :
    (a.callAll pending).1.map Task.id = (gamesOf pending).map Match.id := by
  induction pending generalizing a with
  | nil => rfl
  | cons p ps ih =>
      simp only [AllocatorModel.callAll, gamesOf, List.map_cons, List.cons.injEq, true_and]
      exact ih _

end Plan

/-! ## A batch on its own -/

section Batch

private def endsOf (tasks : List Task) : List (MatchId × Outcome) :=
  tasks.map fun t => (t.id, t.reply.verdict)

private theorem batch_endBatch (tasks : List Task) (f : FanOut) :
    (endBatch tasks f).1 = f.resolveAll (endsOf tasks) := by
  induction tasks generalizing f with
  | nil => rfl
  | cons t ts ih => exact ih (f.resolve t.id t.reply.verdict).1

private theorem batch_playBatch (plan : List Round) (f : FanOut) :
    (playBatch plan f).1 = f.resolveAll (endsOf (plan.flatMap Round.ended)) := by
  induction plan generalizing f with
  | nil => rfl
  | cons r rs ih =>
      have hrest : (playBatch (r :: rs) f).1 = _ := ih (endBatch r.ended f).1
      rw [hrest, batch_endBatch, List.flatMap_cons, endsOf, endsOf, endsOf, List.map_append,
        FanOut.resolveAll, FanOut.resolveAll, FanOut.resolveAll, List.foldl_append]

/-- A batch on its own is placed by the ends of its tasks, one end for each. -/
theorem runBatch_follows (a : AllocatorModel) (pending : List PendingMatch) :
    ∃ order : List Task, order.Perm (a.callAll pending).1 ∧
      (runBatch a pending).batch =
        .allocateAll pending (order.map fun t => (t.id, t.reply.verdict)) :=
  ⟨_, plan_perm .aside (a.callAll pending).1, batch_playBatch _ _⟩

end Batch

/-! ## What comes in while time passes -/

/-- A run that a rehearsal shows. -/
structure Plays (settings : Settings) (r : Run) (w : World) : Prop where
  reachable : r.Reachable settings
  scheduler : r.course.scheduler = w.scheduler
  channel : r.listener.channel = w.channel

private def submitAll (c : Course) (is : List Intent) : Course := is.foldl Course.submit c

/-- Between two runs, something has come in from outside and nothing else has happened. -/
structure Hears (r s : Run) : Prop where
  place : s.place = r.place
  course : ∃ is, s.course = submitAll r.course is

section Waiting

variable {settings : Settings} {r s t : Run} {w : World}

private theorem Hears.refl (r : Run) : Hears r r := ⟨rfl, [], rfl⟩

private theorem Hears.trans (h : Hears r s) (k : Hears s t) : Hears r t := by
  obtain ⟨is, his⟩ := h.course
  obtain ⟨js, hjs⟩ := k.course
  refine ⟨k.place.trans h.place, is ++ js, ?_⟩
  rw [hjs, his, submitAll, submitAll, submitAll, List.foldl_append]

private theorem scheduler_submitAll (c : Course) (is : List Intent) :
    (submitAll c is).scheduler = c.scheduler.submitAll is := by
  induction is generalizing c with
  | nil => rfl
  | cons i is ih => exact ih (c.submit i)

private theorem ticks_submitAll {c : Course} {past : List TickRecord} {t : TickRecord}
    (ticks : c.ticks = t :: past) (is : List Intent) :
    ∃ u, (submitAll c is).ticks = u :: past ∧ u.batch = t.batch ∧ u.ends = t.ends := by
  induction is generalizing c t with
  | nil => exact ⟨t, ticks, rfl, rfl⟩
  | cons i is ih =>
      have hticks : (c.submit i).ticks = t.hear i :: past := by
        simp only [Course.submit, ticks, List.modifyHead_cons]
      obtain ⟨u, hu, hbatch, hends⟩ := ih hticks
      exact ⟨u, hu, hbatch.trans (t.hear_batch i), hends.trans (t.hear_ends i)⟩

theorem submitAll_follows (h : Plays settings r w) (is : List Intent) :
    ∃ s, Plays settings s (w.submitAll is) ∧ Hears r s := by
  refine ⟨{ r with course := submitAll r.course is }, ⟨?_, ?_, h.channel⟩, rfl, is, rfl⟩
  · have hreachable := h.reachable
    clear h
    induction is generalizing r with
    | nil => exact hreachable
    | cons i is ih => exact ih (hreachable.step (.submit i))
  · show (submitAll r.course is).scheduler = w.scheduler.submitAll is
    rw [scheduler_submitAll, h.scheduler]

theorem receive_follows (h : Plays settings r w) (signal : Signal) :
    ∃ s, Plays settings s (w.receive signal) ∧ Hears r s := by
  cases signal with
  | submit is => exact submitAll_follows h is
  | send value =>
      refine ⟨r.send value, ⟨h.reachable.step (.send value), h.scheduler, ?_⟩, rfl, [], rfl⟩
      show r.listener.channel.send value = w.channel.send value
      rw [h.channel]
  | abandon =>
      refine ⟨r.abandon, ⟨h.reachable.step .abandon, h.scheduler, ?_⟩, rfl, [], rfl⟩
      show r.listener.channel.abandon = w.channel.abandon
      rw [h.channel]

private theorem receiveAll_follows (signals : List (Nat × Signal)) (h : Plays settings r w) :
    ∃ s, Plays settings s (signals.foldl (fun w s => w.receive s.2) w) ∧ Hears r s := by
  induction signals generalizing r w with
  | nil => exact ⟨r, h, .refl r⟩
  | cons signal signals ih =>
      obtain ⟨s, hs, hfirst⟩ := receive_follows h signal.2
      obtain ⟨t, ht, hrest⟩ := ih hs
      exact ⟨t, ht, hfirst.trans hrest⟩

theorem elapseTo_follows (h : Plays settings r w) (moment : Nat) :
    ∃ s, Plays settings s (w.elapseTo moment) ∧ Hears r s :=
  receiveAll_follows _ ⟨h.reachable, h.scheduler, h.channel⟩

theorem awaitReply_follows {α : Type} (h : Plays settings r w) (since : Nat) (reply : Reply α) :
    ∃ s, Plays settings s (w.awaitReply since reply) ∧ Hears r s := by
  obtain ⟨s, hs, hfirst⟩ := elapseTo_follows h (since + reply.delay)
  obtain ⟨t, ht, hrest⟩ := submitAll_follows hs reply.arrivals
  exact ⟨t, ht, hfirst.trans hrest⟩

end Waiting

/-! ## The steps of a rehearsed tick -/

section Steps

variable {settings : Settings} {r s : Run} {w : World} {past : List TickRecord}
  {games ended : List Match}

/-- A tick waits for the servers of matches. -/
structure Waits (r : Run) (past : List TickRecord) (games ended : List Match) : Prop where
  place : r.place = .ticking
  phase : ∃ since stats batch, r.course.scheduler.phase = .allocating since stats batch
  ticks : ∃ t, r.course.ticks = t :: past ∧ t.games = games ∧ t.ended = ended

private theorem Waits.hear (hw : Waits r past games ended) (h : Hears r s) :
    Waits s past games ended := by
  obtain ⟨t, ticks, rfl, rfl⟩ := hw.ticks
  obtain ⟨is, hcourse⟩ := h.course
  obtain ⟨u, hu, hbatch, hends⟩ := ticks_submitAll ticks is
  refine ⟨h.place.trans hw.place, ?_, u, hcourse ▸ hu, ?_, ?_⟩
  · rw [hcourse, scheduler_submitAll]
    exact hw.phase
  · rw [TickRecord.games, hbatch]
    rfl
  · rw [TickRecord.ended, hends]
    rfl

/-- A step of the scheduler's tick is a step of the run. -/
private theorem Plays.work (h : Plays settings r w) (place : r.place = .ticking) {d : Course}
    (busy : r.course.scheduler.phase ≠ .idle) (move : Course.Move r.course d) {v : World}
    (scheduler : d.scheduler = v.scheduler) (channel : w.channel = v.channel) :
    Plays settings { r with course := d } v :=
  ⟨h.reachable.step (.move (.work place busy move)), scheduler, h.channel.trans channel⟩

private theorem Waits.resolve (h : Plays settings r w) (hw : Waits r past games ended) {m : Match}
    (made : m ∈ games) (running : m ∉ ended) (o : Outcome) :
    ∃ s, Plays settings s (w.step (w.scheduler.resolve m.id o)) ∧
      Waits s past games (ended ++ [m]) := by
  obtain ⟨since, stats, batch, phase⟩ := hw.phase
  obtain ⟨t, ticks, rfl, rfl⟩ := hw.ticks
  have hhead : r.course.ticks.head? = some t := by
    rw [ticks]
    rfl
  have busy : r.course.scheduler.phase ≠ .idle := by simp [phase]
  refine ⟨{ r with course := r.course.resolve m o },
    h.work hw.place busy (.resolve m o phase hhead made running) ?_ rfl, hw.place, ?_, ?_⟩
  · rw [Course.resolve, h.scheduler]
    rfl
  · refine ⟨since, stats, (batch.resolve m.id o).1, ?_⟩
    simp only [Course.resolve, Scheduler.resolve, phase]
  · refine ⟨{ t with ends := t.ends ++ [⟨m, o⟩] }, ?_, rfl, List.map_append⟩
    simp only [Course.resolve, ticks, List.modifyHead_cons]

/-- Tasks end one after another. -/
theorem endTasks_follows (since : Nat) (tasks : List Task) (h : Plays settings r w)
    (hw : Waits r past games ended) (hmade : tasks.map Task.id ⊆ games.map Match.id)
    (hnew : (ended.map Match.id ++ tasks.map Task.id).Nodup) :
    ∃ s more, Plays settings s (World.endTasks since tasks w) ∧
      Waits s past games (ended ++ more) ∧ more.map Match.id = tasks.map Task.id := by
  induction tasks generalizing w r ended with
  | nil => exact ⟨r, [], h, by rwa [List.append_nil], rfl⟩
  | cons t rest ih =>
      obtain ⟨s, hs, hheard⟩ := awaitReply_follows h since t.reply
      rw [List.map_cons] at hmade hnew
      obtain ⟨m, made, hid⟩ := List.mem_map.mp (hmade List.mem_cons_self)
      have hrunning : m ∉ ended := by
        intro hm
        exact (List.nodup_append.mp hnew).2.2 _ (List.mem_map_of_mem hm) _ List.mem_cons_self hid
      obtain ⟨u, hu, hwu⟩ := (hw.hear hheard).resolve hs made hrunning t.reply.verdict
      rw [hid] at hu
      have hnext : ((ended ++ [m]).map Match.id ++ rest.map Task.id).Nodup := by
        rwa [List.map_append, List.map_singleton, hid, List.append_assoc]
      obtain ⟨v, more, hv, hwv, hmore⟩ := ih hu hwu
        (fun _ hr => hmade (List.mem_cons_of_mem _ hr)) hnext
      refine ⟨v, m :: more, hv, ?_, ?_⟩
      · rwa [List.append_assoc] at hwv
      · rw [List.map_cons, List.map_cons, hid, hmore]

/-- Rounds are played one after another. -/
theorem playRounds_follows (since : Nat) (rs : List Round) (h : Plays settings r w)
    (hw : Waits r past games ended)
    (hmade : (rs.flatMap Round.ended).map Task.id ⊆ games.map Match.id)
    (hnew : (ended.map Match.id ++ (rs.flatMap Round.ended).map Task.id).Nodup) :
    ∃ s more, Plays settings s (rs.foldl (World.playRound since) w) ∧
      Waits s past games (ended ++ more) ∧
      more.map Match.id = (rs.flatMap Round.ended).map Task.id := by
  induction rs generalizing w r ended with
  | nil => exact ⟨r, [], h, by rwa [List.append_nil], rfl⟩
  | cons round rs ih =>
      rw [List.flatMap_cons, List.map_append] at hmade hnew
      rw [← List.append_assoc] at hnew
      obtain ⟨s, first, hs, hws, hfirst⟩ := endTasks_follows since round.ended
        (w := w.record round.trace) ⟨h.reachable, h.scheduler, h.channel⟩ hw
        (List.append_subset.mp hmade).1 (List.nodup_append.mp hnew).1
      have hnext : ((ended ++ first).map Match.id ++
          (rs.flatMap Round.ended).map Task.id).Nodup := by
        rwa [List.map_append, hfirst]
      obtain ⟨u, more, hu, hwu, hmore⟩ := ih hs hws (List.append_subset.mp hmade).2 hnext
      refine ⟨u, first ++ more, hu, ?_, ?_⟩
      · rwa [List.append_assoc] at hwu
      · rw [List.flatMap_cons, List.map_append, List.map_append, hfirst, hmore]

/-- Matches are announced one after another. -/
theorem announce_follows (left : List Match) (h : Plays settings r w) (place : r.place = .ticking)
    (hpast : r.course.ticks.tail = past) (hticks : r.course.ticks ≠ []) {since : Nat}
    {stats : TickStats} (phase : r.course.scheduler.phase = .announcing since stats left) :
    ∃ s last, Plays settings s (World.announce left w) ∧ s.place = .ticking ∧
      s.course.ticks.tail = past ∧ s.course.scheduler.phase = .announcing since last [] := by
  induction left generalizing w r stats with
  | nil => exact ⟨r, stats, h, place, hpast, phase⟩
  | cons m rest ih =>
      obtain ⟨t, older, ticks⟩ := List.exists_cons_of_ne_nil hticks
      obtain ⟨s, hs, hheard⟩ := awaitReply_follows
        (w := { w with notifier := (w.notifier.call m).2.1 }) ⟨h.reachable, h.scheduler, h.channel⟩
        w.now (w.notifier.call m).1
      obtain ⟨is, hcourse⟩ := hheard.course
      obtain ⟨u, hu, _⟩ := ticks_submitAll ticks is
      rw [← hcourse] at hu
      have hphase : s.course.scheduler.phase = .announcing since stats (m :: rest) := by
        rw [hcourse, scheduler_submitAll]
        exact phase
      have hnext := congrArg Scheduler.phase
        (Scheduler.announced_of_announcing hphase (w.notifier.call m).1.verdict)
      have busy : s.course.scheduler.phase ≠ .idle := by simp [hphase]
      have hsplace := hheard.place.trans place
      refine ih (hs.work hsplace busy (.announce (w.notifier.call m).1.verdict hphase) ?_ ?_)
        hsplace ?_ ?_ hnext
      · rw [Course.announce, hs.scheduler]
        rfl
      · rfl
      · rw [ticks] at hpast
        rw [← hpast]
        simp only [Course.announce, hu, List.modifyHead_cons, List.tail_cons]
      · simp only [Course.announce, hu, List.modifyHead_cons, ne_eq, reduceCtorEq,
          not_false_eq_true]

/-- What follows the end of the last task: the requeue step, the announcements and the end. -/
private theorem close_follows (h : Plays settings r w) (hw : Waits r past games ended)
    (hended : ∀ m ∈ games, m ∈ ended) :
    let v := World.announce (World.unannounced w.scheduler.settle.1) (w.step w.scheduler.settle)
    ∃ s, Plays settings s (v.step (v.scheduler.finish v.now v.today)) ∧ s.place = .ticking ∧
      s.course.ticks.tail = past ∧ s.course.scheduler.phase = .idle := by
  intro v
  obtain ⟨since, stats, batch, phase⟩ := hw.phase
  obtain ⟨t, ticks, rfl, rfl⟩ := hw.ticks
  have hhead : r.course.ticks.head? = some t := by
    rw [ticks]
    rfl
  have hticks : r.course.settle.ticks = { t with settled := true } :: past := by
    simp only [Course.settle, ticks, List.modifyHead_cons]
  obtain ⟨stats, hphase⟩ := h.reachable.coherent.course.coherent.phase_settle phase hhead hended
  have hleft : World.unannounced w.scheduler.settle.1 = placed t.ends := by
    rw [← h.scheduler, World.unannounced, show r.course.scheduler.settle.1.phase = _ from hphase]
  have busy : r.course.scheduler.phase ≠ .idle := by simp [phase]
  have hsettled :
      Plays settings { r with course := r.course.settle } (w.step w.scheduler.settle) := by
    refine h.work hw.place busy (.settle phase hhead hended) ?_ rfl
    rw [Course.settle, h.scheduler]
    rfl
  obtain ⟨s, last, hs, place, hpast, hannounced⟩ := announce_follows (placed t.ends) hsettled
    hw.place (congrArg List.tail hticks) (hticks ▸ List.cons_ne_nil _ _) hphase
  rw [← hleft] at hs
  have busy : s.course.scheduler.phase ≠ .idle := by simp [hannounced]
  refine ⟨{ s with course := s.course.finish v.now v.today },
    hs.work place busy (.finish _ _ hannounced) ?_ rfl, place, hpast, ?_⟩
  · rw [Course.finish, hs.scheduler]
    rfl
  · simp only [Course.finish, Scheduler.finish, hannounced]

/-- The matches of the tick that is about to start have different identifiers. -/
def Distinct (w : World) : Prop :=
  ((gamesOf (w.scheduler.begin w.fresh w.now w.today).2.1).map Match.id).Nodup

/-- A rehearsed tick takes a run from its look at the channel to the end of a tick. -/
theorem tick_follows (h : Plays settings r w) (place : r.place = .top) (quiet : r.stops = false)
    (distinct : Distinct w) :
    ∃ s, Plays settings s w.tick ∧ s.place = .ticking ∧ s.course.ticks.tail = r.course.ticks ∧
      s.course.scheduler.phase = .idle := by
  let pending := (w.scheduler.begin w.fresh w.now w.today).2.1
  let tasks := (w.allocator.callAll pending).1
  have hids : (((w.turns.plan tasks).flatMap Round.ended).map Task.id).Perm
      ((gamesOf pending).map Match.id) := by
    rw [← ids_callAll w.allocator pending]
    exact (plan_perm w.turns tasks).map _
  let begun : Run := { r with course := r.course.begin w.fresh w.now w.today, place := .ticking }
  let start : World := { ({ w with
      scheduler := (w.scheduler.begin w.fresh w.now w.today).1 } : World).record
        (w.scheduler.begin w.fresh w.now w.today).2.2 with
      allocator := (w.allocator.callAll pending).2 }
  have hbegun : Plays settings begun start := by
    refine ⟨h.reachable.step (.move (.begin w.fresh w.now w.today place quiet ?_)), ?_, h.channel⟩
    · rwa [h.scheduler]
    · show (r.course.begin w.fresh w.now w.today).scheduler = _
      rw [Course.begin, h.scheduler]
      rfl
  have hwaits : Waits begun r.course.ticks (gamesOf pending) [] :=
    ⟨rfl, ⟨_, _, _, rfl⟩, _, rfl, congrArg (fun s : Scheduler =>
      gamesOf (s.begin w.fresh w.now w.today).2.1) h.scheduler, rfl⟩
  obtain ⟨s, more, hs, hws, hmore⟩ := playRounds_follows w.now (w.turns.plan tasks) hbegun hwaits
    hids.subset (hids.nodup_iff.mpr distinct)
  have hended : ∀ m ∈ gamesOf pending, m ∈ [] ++ more := by
    intro m hm
    obtain ⟨t, ticks, hgames, hends⟩ := hws.ticks
    have hsound : t.Sound settings :=
      hs.reachable.coherent.course.coherent.sound t (ticks ▸ List.mem_cons_self)
    have hid : m.id ∈ more.map Match.id := hmore ▸ hids.mem_iff.mpr (List.mem_map_of_mem hm)
    obtain ⟨n, hn, hnid⟩ := List.mem_map.mp hid
    have hmade : n ∈ gamesOf pending := by
      rw [← hgames]
      exact hsound.ended_subset (hends ▸ hn)
    rwa [← List.inj_on_of_nodup_map distinct hmade hm hnid]
  exact close_follows hs hws hended

end Steps

/-! ## The steps of a rehearsal -/

section Rehearsal

variable {settings : Settings} {r : Run} {w : World}

private theorem Plays.wake (h : Plays settings r w) (place : r.place = .waiting) {value : Bool}
    {l : Listener} (changed : r.listener.changed? = some (value, l)) :
    Plays settings { r with listener := l, place := .woken value } w :=
  ⟨h.reachable.step (.move (.wake place changed)), h.scheduler,
    (Listener.channel_of_changed? changed).trans h.channel⟩

private theorem Plays.end_of_woken (h : Plays settings r w) {value : Bool}
    (place : r.place = .woken value) (stop : value = false ∨ r.listener.channel.asked = true) :
    Plays settings { r with place := .returned } w := by
  have hreturned := h.reachable.step (.move (.listen place))
  rw [if_pos stop] at hreturned
  exact ⟨hreturned, h.scheduler, h.channel⟩

private theorem returns_of_unattended (h : Plays settings r w) (place : r.place = .waiting)
    (seen : r.listener.unseen = false) (gone : r.listener.channel.attended = false) :
    ∃ s, Plays settings s w ∧ s.place = .returned := by
  have hchanged : r.listener.changed? = some (false, r.listener) := by
    simp only [Listener.changed?, seen, gone, Bool.false_eq_true, if_false]
  exact ⟨_, (h.wake place hchanged).end_of_woken rfl (Or.inl rfl), rfl⟩

/-- A wait that has to end is woken by the value, or by nobody being left, perhaps after a value
that changes nothing. -/
private theorem returns_of_stops (h : Plays settings r w) (place : r.place = .waiting)
    (stops : w.channel.stops = true) : ∃ s, Plays settings s w ∧ s.place = .returned := by
  rw [← h.channel] at stops
  simp only [ShutdownChannel.stops, Bool.or_eq_true, Bool.not_eq_true'] at stops
  cases hunseen : r.listener.unseen with
  | true =>
      have hchanged : r.listener.changed? = some (true, { r.listener with unseen := false }) := by
        simp only [Listener.changed?, hunseen, if_true]
      have hwoken := h.wake place hchanged
      cases hasked : r.listener.channel.asked with
      | true => exact ⟨_, hwoken.end_of_woken rfl (Or.inr hasked), rfl⟩
      | false =>
          have hgone := stops.resolve_left (by simp [hasked])
          have hwaiting := hwoken.reachable.step (.move (.listen rfl))
          rw [if_neg (by simp [hasked])] at hwaiting
          exact returns_of_unattended ⟨hwaiting, h.scheduler, h.channel⟩ rfl rfl hgone
  | false =>
      have hgone := stops.resolve_left fun hasked => by
        have hnews := h.reachable.coherent.unseen (Or.inr place) hasked
        rw [hunseen] at hnews
        cases hnews
      exact returns_of_unattended h place hunseen hgone

private theorem Plays.expire (h : Plays settings r w) (place : r.place = .waiting) :
    Plays settings { r with place := .top } w :=
  ⟨h.reachable.step (.move (.expire place)), h.scheduler, h.channel⟩

/-- The next thing a run does is to look at the channel, unless it has had to stop. -/
def Ready (r : Run) : Prop := r.place = .top ∨ r.place = .returned ∧ r.stops = true

/-- A wait ends with the look at the channel, or with the run. -/
theorem waitUntil_follows (moment fuel : Nat) (h : Plays settings r w)
    (place : r.place = .waiting) :
    ∃ s, Plays settings s (World.waitUntil moment fuel w) ∧ Ready s := by
  have hexpire : ∃ s, Plays settings s (w.elapseTo moment) ∧ Ready s := by
    obtain ⟨s, hs, hheard⟩ := elapseTo_follows h moment
    exact ⟨_, hs.expire (hheard.place.trans place), Or.inl rfl⟩
  induction fuel generalizing r w with
  | zero => exact hexpire
  | succ fuel ih =>
      unfold World.waitUntil
      by_cases stops : w.channel.stops = true
      · rw [if_pos stops]
        obtain ⟨s, hs, hreturned⟩ := returns_of_stops h place stops
        exact ⟨s, hs, Or.inr ⟨hreturned, by rwa [Run.stops, hs.channel]⟩⟩
      · rw [if_neg stops]
        split
        · exact hexpire
        · rename_i t _ _ _
          split
          · obtain ⟨s, hs, hheard⟩ := elapseTo_follows h t
            have hplace := hheard.place.trans place
            refine ih hs hplace ?_
            obtain ⟨u, hu, hlater⟩ := elapseTo_follows hs moment
            exact ⟨_, hu.expire (hlater.place.trans hplace), Or.inl rfl⟩
          · exact ⟨_, Plays.expire ⟨h.reachable, h.scheduler, h.channel⟩ place, Or.inl rfl⟩

/-- As functions the two sides agree at sight. Of their values at a world, the kernel would try the
comparison of the durations first, nanosecond by nanosecond. -/
theorem rest_eq : World.rest = fun w since =>
    match idleTime (Duration.ofMillis (w.now - since)) w.scheduler.settings.tickRate with
    | some idle => World.waitUntil (w.now + idle.millis) (w.due.length + 1) w
    | none => w.record (overrunTrace (Duration.ofMillis (w.now - since))
        w.scheduler.settings.tickRate) := rfl

/-- A tick is followed by a wait, or by the next look at the channel. -/
theorem rest_follows (h : Plays settings r w) (place : r.place = .ticking)
    (idle : r.course.scheduler.phase = .idle) (since : Nat) :
    ∃ s, Plays settings s (w.rest since) ∧ Ready s := by
  have hrest := h.reachable.step (.move (.rest (Duration.ofMillis (w.now - since)) place idle))
  rw [h.scheduler] at hrest
  rw [rest_eq]
  cases hidle : idleTime (Duration.ofMillis (w.now - since)) w.scheduler.settings.tickRate with
  | some idle =>
      rw [hidle] at hrest
      simp only [hidle]
      exact waitUntil_follows _ _ ⟨hrest, h.scheduler, h.channel⟩ rfl
  | none =>
      rw [hidle] at hrest
      simp only [hidle]
      exact ⟨_, ⟨hrest.step (.move (.resume rfl)), h.scheduler, h.channel⟩, Or.inl rfl⟩

/-- A tick and the wait after it. -/
def beat (w : World) : World := w.tick.rest w.now

/-- Ticks follow one another until the run has to stop or the rehearsal has had enough of them. -/
theorem loop_follows (fuel : Nat) (h : Plays settings r w) (ready : Ready r)
    (distinct : ∀ n, Distinct (beat^[n] w)) :
    ∃ s, Plays settings s (World.loop fuel w) ∧ Ready s := by
  induction fuel generalizing r w with
  | zero => exact ⟨r, h, ready⟩
  | succ fuel ih =>
      unfold World.loop
      by_cases stops : w.channel.stops = true
      · rw [if_pos stops]
        have hstops : r.stops = true := by rwa [Run.stops, h.channel]
        rcases ready with place | hreturned
        · exact ⟨_, ⟨h.reachable.step (.move (.stop place hstops)), h.scheduler, h.channel⟩,
            Or.inr ⟨rfl, hstops⟩⟩
        · exact ⟨r, h, Or.inr hreturned⟩
      · rw [if_neg stops]
        have quiet : r.stops = false := by rwa [Run.stops, h.channel, ← Bool.not_eq_true]
        have place := ready.resolve_right fun hstops => by simp [quiet] at hstops
        obtain ⟨s, hs, hticking, _, idle⟩ := tick_follows h place quiet (distinct 0)
        obtain ⟨t, ht, hready⟩ := rest_follows hs hticking idle w.now
        have hnext : ∀ n, Distinct (beat^[n] (beat w)) := by
          intro n
          rw [← Function.iterate_succ_apply]
          exact distinct (n + 1)
        exact ih ht hready hnext

def started (w : World) : World :=
  let w := { w with turns := .among }.elapseTo w.now
  w.record (startTrace w.scheduler)

/-- A rehearsal until shutdown takes the steps of a run. -/
theorem run_follows (h : Plays settings r w) (place : r.place = .top)
    (distinct : ∀ n, Distinct (beat^[n] (started w))) :
    ∃ s, Plays settings s w.run ∧ Ready s := by
  obtain ⟨s, hs, hheard⟩ := elapseTo_follows (w := { w with turns := .among })
    ⟨h.reachable, h.scheduler, h.channel⟩ w.now
  have hstarted : Plays settings s (started w) := ⟨hs.reachable, hs.scheduler, hs.channel⟩
  obtain ⟨t, ht, hready⟩ := loop_follows (((w.due.map (·.1)).foldl max 0) + 2) hstarted
    (Or.inl (hheard.place.trans place)) distinct
  exact ⟨t, ⟨ht.reachable, ht.scheduler, ht.channel⟩, hready⟩

end Rehearsal

end Matchmaking.Rehearsal
