import Matchmaking.Proofs.Rehearsal.Clock

/-!
# Ticks keep pace

Until shutdown the next tick starts at the tick rate after a tick, or as soon as that is over if it
takes longer. Nothing that comes in meanwhile shortens a wait or starts it again.
-/

namespace Matchmaking

open Time

/-- The next tick starts at the tick rate after a tick, or when that is over if it takes longer. -/
def Beat.Precedes (rate : Duration) (a b : Beat) : Prop :=
  ∃ d, a.took = some d ∧ b.start = a.start + max d.nanos rate.nanos

namespace TimedRun

/-- The latest tick is over and took less than the rate, and the rest of the rate is waited for. -/
def Idles (rate : Duration) (p : TimedRun) : Prop :=
  ∃ b past d, p.beats = b :: past ∧ b.took = some d ∧ d.nanos < rate.nanos ∧
    p.due = b.start + rate.nanos ∧ p.now ≤ p.due

/-- What the clock says, by where a run stands. -/
def Timely (rate : Duration) (p : TimedRun) : Prop :=
  match p.run.place with
  | .top => ∀ b past, p.beats = b :: past → b.Precedes rate ⟨p.now, none⟩
  | .ticking => ∃ b past, p.beats = b :: past ∧ b.start ≤ p.now
  | .waiting => p.Idles rate
  | .woken _ => p.Idles rate
  | .yielding => ∃ b past d, p.beats = b :: past ∧ b.took = some d ∧ rate.nanos ≤ d.nanos ∧
      p.now = b.start + d.nanos
  | .returned => True

/-- What holds of every run by the clock. -/
structure Coherent (settings : Settings) (p : TimedRun) : Prop where
  run : p.run.Coherent settings
  spaced : p.beats.IsChain fun b a => a.Precedes settings.tickRate b
  timely : p.Timely settings.tickRate

section Coherent

variable {settings : Settings} {rate : Duration} {p q : TimedRun}

theorem Coherent.rate_eq (h : p.Coherent settings) : p.rate = settings.tickRate := by
  rw [TimedRun.rate, h.run.course.coherent.settings_eq]

theorem coherent_new (settings : Settings) (asked : Bool) (moment : Nat) :
    (new settings asked moment).Coherent settings where
  run := Run.coherent_new settings asked
  spaced := .nil
  timely := by
    intro b past latest
    cases latest

theorem Timely.of_place {r : Run} (h : p.Timely rate) (same : r.place = p.run.place) :
    ({ p with run := r } : TimedRun).Timely rate := by
  simp only [Timely, same]
  exact h

theorem Timely.idles (h : p.Timely rate) (waits : p.Waits) : p.Idles rate := by
  rcases waits with place | ⟨value, place⟩
  · simpa only [Timely, place] using h
  · simpa only [Timely, place] using h

theorem Idles.precedes (h : p.Idles rate) (due : p.due ≤ p.now) {b : Beat} {past : List Beat}
    (latest : p.beats = b :: past) : b.Precedes rate ⟨p.now, none⟩ := by
  obtain ⟨c, past', d, hbeats, took, short, hdue, hnow⟩ := h
  rw [latest] at hbeats
  cases hbeats
  refine ⟨d, took, ?_⟩
  simp only
  omega

theorem Coherent.pass (h : p.Coherent settings) {span : Nat} (can : p.CanPass span) :
    ({ p with now := p.now + span } : TimedRun).Coherent settings := by
  refine ⟨h.run, h.spaced, ?_⟩
  have htimely := h.timely
  rcases can with place | ⟨place, hdue⟩
  · simp only [Timely, place] at htimely ⊢
    obtain ⟨b, past, latest, hnow⟩ := htimely
    exact ⟨b, past, latest, by omega⟩
  · simp only [Timely, place] at htimely ⊢
    obtain ⟨b, past, d, latest, took, short, due, -⟩ := htimely
    exact ⟨b, past, d, latest, took, short, due, hdue⟩

theorem spaced_finish {b : Beat} {past : List Beat} {now : Nat}
    (h : (b :: past).IsChain fun b a => a.Precedes rate b) :
    (b.finish now :: past).IsChain fun b a => a.Precedes rate b := by
  cases past with
  | nil => exact .singleton _
  | cons a past =>
      rw [List.isChain_cons_cons] at h ⊢
      exact h

/-- A step of the run keeps the starts of ticks apart and the run on time. -/
theorem Coherent.move (h : p.Coherent settings) (m : Move p q) : q.Coherent settings := by
  have hrun := h.run.move m.run
  have hspaced := h.spaced
  have htimely := h.timely
  cases m with
  | stop place => exact ⟨hrun, hspaced, trivial⟩
  | begin fresh since today place =>
      simp only [Timely, place] at htimely
      refine ⟨hrun, ?_, ⟨p.now, none⟩, p.beats, rfl, Nat.le_refl _⟩
      cases hbeats : p.beats with
      | nil => exact .singleton _
      | cons b past =>
          rw [hbeats] at hspaced
          exact .cons_cons (htimely b past hbeats) hspaced
  | work place busy move => exact ⟨hrun, hspaced, htimely.of_place rfl⟩
  | @wait b past span place idle latest left =>
      rw [h.rate_eq, idleTime_eq_some_iff] at left
      simp only [Timely, place, latest, List.cons.injEq] at htimely
      obtain ⟨_, _, ⟨rfl, rfl⟩, hstarted⟩ := htimely
      have helapsed : (b.elapsed p.now).nanos = p.now - b.start := rfl
      refine ⟨hrun, spaced_finish (latest ▸ hspaced), ?_⟩
      refine ⟨b.finish p.now, past, b.elapsed p.now, rfl, rfl, left.1, ?_, Nat.le_add_right _ _⟩
      change p.now + span.nanos = b.start + settings.tickRate.nanos
      omega
  | @overrun b past place idle latest left =>
      rw [h.rate_eq, idleTime_eq_none_iff] at left
      simp only [Timely, place, latest, List.cons.injEq] at htimely
      obtain ⟨_, _, ⟨rfl, rfl⟩, hstarted⟩ := htimely
      refine ⟨hrun, spaced_finish (latest ▸ hspaced), ?_⟩
      refine ⟨b.finish p.now, past, b.elapsed p.now, rfl, rfl, left, ?_⟩
      change p.now = b.start + (p.now - b.start)
      omega
  | resume place =>
      simp only [Timely, place] at htimely
      obtain ⟨b, past, d, latest, took, long, hnow⟩ := htimely
      refine ⟨hrun, hspaced, ?_⟩
      intro c past' latest'
      obtain ⟨rfl, -⟩ := List.cons.inj (latest.symm.trans latest')
      exact ⟨d, took, by rw [max_eq_left long]; exact hnow⟩
  | expire place due =>
      refine ⟨hrun, hspaced, ?_⟩
      intro b past latest
      exact (htimely.idles (Or.inl place)).precedes due latest
  | wake place changed => exact ⟨hrun, hspaced, htimely.idles (Or.inl place)⟩
  | listen place =>
      refine ⟨hrun, hspaced, ?_⟩
      have hidles := htimely.idles (Or.inr ⟨_, place⟩)
      split
      · exact trivial
      · exact hidles

theorem Coherent.step (h : p.Coherent settings) (t : Step p q) : q.Coherent settings := by
  cases t with
  | submit i => exact ⟨h.run.submit i, h.spaced, h.timely.of_place rfl⟩
  | send value => exact ⟨h.run.send value, h.spaced, h.timely.of_place rfl⟩
  | abandon => exact ⟨h.run.abandon, h.spaced, h.timely.of_place rfl⟩
  | pass span can => exact h.pass can
  | move m => exact h.move m

theorem Reachable.coherent (h : Reachable settings p) : p.Coherent settings := by
  induction h with
  | new asked moment => exact coherent_new settings asked moment
  | step _ t ih => exact ih.step t

/-! ## Waiting -/

theorem Waits.ne (h : p.Waits) :
    p.run.place ≠ .top ∧ p.run.place ≠ .ticking ∧ p.run.place ≠ .yielding := by
  rcases h with place | ⟨value, place⟩ <;> simp [place]

/-- A wait goes on with the same end, or it ends on time, or the run has to stop. -/
theorem Coherent.wait_step (h : p.Coherent settings) (waits : p.Waits) (t : Step p q) :
    q.Waits ∧ q.due = p.due ∨ q.run.place = .top ∧ q.now = p.due ∨
      q.run.place = .returned ∧ q.run.stops = true := by
  obtain ⟨_, _, _, -, -, -, -, hnow⟩ := h.timely.idles waits
  obtain ⟨notTop, notTicking, notYielding⟩ := waits.ne
  cases t with
  | submit i => exact Or.inl ⟨waits, rfl⟩
  | send value => exact Or.inl ⟨waits, rfl⟩
  | abandon => exact Or.inl ⟨waits, rfl⟩
  | pass span can => exact Or.inl ⟨waits, rfl⟩
  | move m =>
      cases m with
      | expire place due => exact Or.inr (Or.inl ⟨rfl, Nat.le_antisymm hnow due⟩)
      | wake place changed => exact Or.inl ⟨Or.inr ⟨_, rfl⟩, rfl⟩
      | @listen value place =>
          by_cases hstop : value = false ∨ p.run.listener.channel.asked = true
          · have hplace : (p.goTo (if value = false ∨ p.run.listener.channel.asked = true
                then .returned else .waiting)).run.place = .returned := if_pos hstop
            exact Or.inr (Or.inr ⟨hplace, Run.stops_of_returns h.run
              (.move (Move.listen place).run) (by simp [place]) hplace⟩)
          · exact Or.inl ⟨Or.inl (if_neg hstop), rfl⟩
      | stop place => exact absurd place notTop
      | begin _ _ _ place => exact absurd place notTop
      | work place => exact absurd place notTicking
      | wait place => exact absurd place notTicking
      | overrun place => exact absurd place notTicking
      | resume place => exact absurd place notYielding

/-! ## Getting on -/

/-- Away from the look at the channel a run has a step to take, in a wait as soon as that is due. -/
theorem Coherent.exists_move (h : p.Coherent settings) (away : p.run.place ≠ .top)
    (place : p.run.place ≠ .returned) :
    (∃ q, Move p q) ∨ p.run.place = .waiting ∧ p.now < p.due := by
  have htimely := h.timely
  cases hplace : p.run.place with
  | top => exact absurd hplace away
  | returned => exact absurd hplace place
  | ticking =>
      left
      by_cases idle : p.run.course.scheduler.phase = .idle
      · simp only [Timely, hplace] at htimely
        obtain ⟨b, past, latest, -⟩ := htimely
        cases left : idleTime (b.elapsed p.now) p.rate with
        | none => exact ⟨_, .overrun hplace idle latest left⟩
        | some span => exact ⟨_, .wait hplace idle latest left⟩
      · obtain ⟨d, m⟩ := h.run.course.coherent.exists_move idle
        exact ⟨_, .work hplace idle m⟩
  | waiting =>
      by_cases due : p.due ≤ p.now
      · exact Or.inl ⟨_, .expire hplace due⟩
      · exact Or.inr ⟨rfl, Nat.lt_of_not_le due⟩
  | woken value => exact Or.inl ⟨_, .listen hplace⟩
  | yielding => exact Or.inl ⟨_, .resume hplace⟩

/-! ## Keeping pace -/

/-- How ticks follow one another at a rate. -/
structure KeepsPace (rate : Duration) (p : TimedRun) : Prop where
  /-- A tick starts at the rate after the one before it, or as soon as that is over. -/
  starts : ∀ later b a earlier, p.beats = later ++ b :: a :: earlier → ∃ d, a.took = some d ∧
    b.start = a.start + max d.nanos rate.nanos ∧ a.start + d.nanos ≤ b.start ∧
    a.start + rate.nanos ≤ b.start ∧ (rate.nanos ≤ d.nanos → b.start = a.start + d.nanos)
  /-- A wait is over at the rate after the start of the tick, whatever comes in meanwhile. -/
  waits : p.Waits → (∃ a past, p.beats = a :: past ∧ p.due = a.start + rate.nanos) ∧
    ∀ q, Step p q → q.Waits ∧ q.due = p.due ∨ q.run.place = .top ∧ q.now = p.due ∨
      q.run.place = .returned ∧ q.run.stops = true
  /-- From a tick to the next nothing is waited for but the end of the wait. -/
  getsOn : p.run.place ≠ .top → p.run.place ≠ .returned →
    ((∃ q, Move p q) ∨ p.run.place = .waiting ∧ p.now < p.due) ∧
      ∀ q, Move p q → q.run.remaining < p.run.remaining

theorem Coherent.keepsPace (h : p.Coherent settings) : p.KeepsPace settings.tickRate where
  starts := by
    intro later b a earlier hbeats
    have hspaced := h.spaced
    rw [hbeats] at hspaced
    obtain ⟨d, took, hstart⟩ := (List.isChain_cons_cons.mp hspaced.right_of_append).1
    refine ⟨d, took, hstart, ?_, ?_, ?_⟩
    · omega
    · omega
    · intro long
      omega
  waits := by
    intro waits
    obtain ⟨b, past, _, latest, -, -, due, -⟩ := h.timely.idles waits
    exact ⟨⟨b, past, latest, due⟩, fun q t => h.wait_step waits t⟩
  getsOn := by
    intro away place
    refine ⟨h.exists_move away place, ?_⟩
    intro q m
    exact Run.remaining_lt_of_ne_top h.run away m.run

end Coherent

end TimedRun

/-! ## Ticks of any length -/

theorem Scheduler.giveBack_nil (policy : FailurePolicy) (q : TicketQueue) :
    giveBack policy [] q = (0, q, []) := if_neg fun h => h.2 rfl

namespace Course

/-- No tick is under way, and nobody waits for one. -/
structure Deserted (c : Course) : Prop where
  idle : c.scheduler.phase = .idle
  intents : c.scheduler.queue.intents = []

theorem deserted_new (settings : Settings) : (new settings).Deserted := ⟨rfl, rfl⟩

def beginAlone (c : Course) (today : Timestamp) : Course := c.begin (fun _ => ⟨0⟩) 0 today

def tickAlone (c : Course) (today : Timestamp) : Course :=
  (c.beginAlone today).settle.finish 0 today

variable {c : Course}

theorem Deserted.games (h : c.Deserted) (today : Timestamp) :
    gamesOf (c.scheduler.begin (fun _ => ⟨0⟩) 0 today).2.1 = [] := by
  simp only [Scheduler.begin, TicketQueue.drain, h.intents]
  rfl

theorem Deserted.phase_beginAlone (h : c.Deserted) (today : Timestamp) :
    (c.beginAlone today).scheduler.phase = .allocating 0 (.begun 0 0) (.start []) := by
  simp only [beginAlone, Course.begin, Scheduler.begin, TicketQueue.drain, h.intents]
  rfl

theorem Deserted.settled (h : c.Deserted) (today : Timestamp) :
    ∃ stats, (c.beginAlone today).settle.scheduler.phase = .announcing 0 stats [] ∧
      (c.beginAlone today).settle.scheduler.queue.intents = [] := by
  have hsettle := Scheduler.settle_of_all_ended (h.phase_beginAlone today) rfl
  refine ⟨_, congrArg Scheduler.phase hsettle, ?_⟩
  have hqueue : (c.beginAlone today).settle.scheduler.queue =
      (Scheduler.giveBack (c.beginAlone today).scheduler.settings.failurePolicy []
        (c.beginAlone today).scheduler.queue).2.1 := congrArg Scheduler.queue hsettle
  rw [hqueue, Scheduler.giveBack_nil]
  rfl

theorem Deserted.moves (h : c.Deserted) (today : Timestamp) :
    Move (c.beginAlone today) (c.beginAlone today).settle ∧
      Move (c.beginAlone today).settle (c.tickAlone today) := by
  obtain ⟨stats, hannouncing, -⟩ := h.settled today
  refine ⟨.settle (h.phase_beginAlone today) rfl ?_, .finish 0 today hannouncing⟩
  intro m hm
  change m ∈ gamesOf (c.scheduler.begin (fun _ => ⟨0⟩) 0 today).2.1 at hm
  rw [h.games today] at hm
  cases hm

theorem Deserted.tickAlone (h : c.Deserted) (today : Timestamp) : (c.tickAlone today).Deserted := by
  obtain ⟨stats, hannouncing, hintents⟩ := h.settled today
  constructor
  · simp only [Course.tickAlone, Course.finish, Scheduler.finish, hannouncing]
  · simp only [Course.tickAlone, Course.finish, Scheduler.finish, hannouncing]
    exact hintents

end Course

namespace TimedRun

section AnyLength

variable {settings : Settings} {c : Course} {l : Listener} {now due : Nat} {beats : List Beat}

/-- A tick starts when nobody waits, and takes any time. -/
theorem Reachable.tickAlone (h : Reachable settings ⟨⟨c, l, .top⟩, now, due, beats⟩)
    (deserted : c.Deserted) (quiet : l.channel.stops = false) (today : Timestamp) (span : Nat) :
    Reachable settings
      ⟨⟨c.tickAlone today, l, .ticking⟩, now + span, due, ⟨now, none⟩ :: beats⟩ := by
  obtain ⟨settle, finish⟩ := deserted.moves today
  have distinct : ((gamesOf (c.scheduler.begin (fun _ => ⟨0⟩) 0 today).2.1).map Match.id).Nodup := by
    rw [deserted.games today]
    exact List.nodup_nil
  have hbegun := h.step (.move (.begin _ 0 today rfl quiet distinct))
  have hpassed := hbegun.step (.pass span (Or.inl rfl))
  have hsettled := hpassed.step (.move (.work rfl (Course.busy_of_move settle rfl) settle))
  exact hsettled.step (.move (.work rfl (Course.busy_of_move finish rfl) finish))

/-- After a tick of any length the run gets back to the look at the channel. -/
theorem Reachable.beatAlone (h : Reachable settings ⟨⟨c, l, .top⟩, now, due, beats⟩)
    (deserted : c.Deserted) (quiet : l.channel.stops = false) (today : Timestamp) (d : Duration) :
    ∃ now' due', Reachable settings
      ⟨⟨c.tickAlone today, l, .top⟩, now', due', ⟨now, some d⟩ :: beats⟩ := by
  let p : TimedRun :=
    ⟨⟨c.tickAlone today, l, .ticking⟩, now + d.nanos, due, ⟨now, none⟩ :: beats⟩
  have htick : Reachable settings p := h.tickAlone deserted quiet today d.nanos
  have idle := (deserted.tickAlone today).idle
  have hfinish : Beat.finish ⟨now, none⟩ p.now = ⟨now, some d⟩ := by
    rw [Beat.finish, Beat.elapsed, Nat.add_sub_cancel_left]
  cases left : idleTime (Beat.elapsed ⟨now, none⟩ p.now) p.rate with
  | none =>
      have hyielding := htick.step (.move (.overrun rfl idle rfl left))
      rw [hfinish] at hyielding
      exact ⟨_, _, hyielding.step (.move (.resume rfl))⟩
  | some span =>
      have hwaiting := htick.step (.move (.wait rfl idle rfl left))
      rw [hfinish] at hwaiting
      have hdue := hwaiting.step (.pass span.nanos (Or.inr ⟨rfl, Nat.le_refl _⟩))
      exact ⟨_, _, hdue.step (.move (.expire rfl (Nat.le_refl _)))⟩

theorem exists_beats (settings : Settings) (today : Timestamp) (ds : List Duration) :
    ∃ c now due beats, Reachable settings ⟨⟨c, .new false, .top⟩, now, due, beats⟩ ∧ c.Deserted ∧
      beats.reverse.map Beat.took = ds.map some := by
  induction ds using List.reverseRecOn with
  | nil => exact ⟨_, 0, _, [], .new false 0, Course.deserted_new settings, rfl⟩
  | append_singleton ds d ih =>
      obtain ⟨c, now, due, beats, h, deserted, htook⟩ := ih
      obtain ⟨now', due', hnext⟩ := h.beatAlone deserted rfl today d
      refine ⟨_, now', due', _, hnext, deserted.tickAlone today, ?_⟩
      simp [htook]

end AnyLength

end TimedRun

section KeepsPace

open Rehearsal

/-- Ticks keep pace until shutdown. The rest of the tick rate is what it has to be, and is waited for
just if there is any. Whatever comes in and however long ticks take, a tick starts at the rate after
the one before it, or as soon as that is over; ticks can take any time. So it is in a rehearsal. -/
theorem ticks_keep_pace (settings : Settings) :
    (∀ elapsed rate : Duration,
      (∀ idle, idleTime elapsed rate = some idle ↔
        elapsed.nanos < rate.nanos ∧ elapsed.nanos + idle.nanos = rate.nanos) ∧
      (idleTime elapsed rate = none ↔ rate.nanos ≤ elapsed.nanos)) ∧
    (∀ p, TimedRun.Reachable settings p → p.KeepsPace settings.tickRate) ∧
    (∀ ds : List Duration, ∃ p, TimedRun.Reachable settings p ∧
      p.beats.reverse.map Beat.took = ds.map some) ∧
    ∀ (w : World) (rate n : Nat), w.scheduler.settings.tickRate = .ofMillis rate →
      (∀ k ≤ n + 1, (beat^[k] w).channel.stops = false) →
      (∀ fuel, World.loop (n + 1 + fuel) w = World.loop fuel (beat^[n + 1] w)) ∧
      ∃ d, (beat^[n] w).tick.now = (beat^[n] w).now + d ∧
        (beat^[n + 1] w).now = (beat^[n] w).now + max d rate := by
  refine ⟨?_, ?_, ?_, ?_⟩
  · intro elapsed rate
    exact ⟨fun idle => idleTime_eq_some_iff, idleTime_eq_none_iff⟩
  · intro p h
    exact h.coherent.keepsPace
  · intro ds
    obtain ⟨c, now, due, beats, h, -, htook⟩ := TimedRun.exists_beats settings Course.trialMoment ds
    exact ⟨_, h, htook⟩
  · intro w rate n hrate quiet
    have htick := passes_tick (beat^[n] w)
    have hquiet := quiet (n + 1) (Nat.le_refl _)
    rw [Function.iterate_succ_apply'] at hquiet
    refine ⟨loop_beats fun k hk => quiet k (Nat.le_of_lt hk), (beat^[n] w).tick.now - (beat^[n] w).now,
      ?_, ?_⟩
    · have hnow := htick.now
      omega
    · rw [Function.iterate_succ_apply']
      apply now_beat _ hquiet
      rw [settings_beats, hrate]

/-! ### A short tick, a wait with an update in it, and a tick that overruns -/

private def trialCourse : Course := (Course.new .standard).tickAlone Course.trialMoment

private def trialShort : TimedRun :=
  ⟨⟨trialCourse, .new false, .ticking⟩, 5000000, 0, [⟨0, none⟩]⟩

private def trialIdle : TimedRun :=
  ⟨⟨trialCourse, .new false, .waiting⟩, 305000000, 1000000000, [⟨0, some ⟨5000000⟩⟩]⟩

private def trialLong : TimedRun :=
  ⟨⟨trialCourse.tickAlone Course.trialMoment, .new false, .ticking⟩, 2500000000, 1000000000,
    [⟨1000000000, none⟩, ⟨0, some ⟨5000000⟩⟩]⟩

private def trialBeats : TimedRun :=
  ⟨⟨(trialCourse.tickAlone Course.trialMoment).tickAlone Course.trialMoment, .new false, .ticking⟩,
    2500000000, 1000000000,
    [⟨2500000000, none⟩, ⟨1000000000, some ⟨1500000000⟩⟩, ⟨0, some ⟨5000000⟩⟩]⟩

private theorem trialCourse_deserted : trialCourse.Deserted :=
  (Course.deserted_new .standard).tickAlone Course.trialMoment

private theorem trialIdle_reachable : TimedRun.Reachable .standard trialIdle := by
  have hnew : TimedRun.Reachable .standard ⟨⟨.new .standard, .new false, .top⟩, 0, 0, []⟩ :=
    .new false 0
  have hshort : TimedRun.Reachable .standard trialShort :=
    hnew.tickAlone (Course.deserted_new .standard) rfl Course.trialMoment 5000000
  have left : idleTime (Beat.elapsed ⟨0, none⟩ trialShort.now) trialShort.rate =
      some ⟨995000000⟩ := by
    rw [hshort.coherent.rate_eq, idleTime_eq_some_iff]
    decide
  have hwaiting : TimedRun.Reachable .standard
      ⟨⟨trialCourse, .new false, .waiting⟩, 5000000, 1000000000, [⟨0, some ⟨5000000⟩⟩]⟩ :=
    hshort.step (.move (.wait rfl trialCourse_deserted.idle rfl left))
  have hpassed := hwaiting.step (.pass 300000000 (Or.inr ⟨rfl, by decide⟩))
  have hwoken := (hpassed.step (.send false)).step (.move (.wake rfl rfl))
  have hlistened := hwoken.step (.move (@TimedRun.Move.listen _ true rfl))
  exact hlistened

private theorem trialBeats_reachable : TimedRun.Reachable .standard trialBeats := by
  have hdue := trialIdle_reachable.step (.pass 695000000 (Or.inr ⟨rfl, by decide⟩))
  have htop := hdue.step (.move (.expire rfl (by decide)))
  have hlong : TimedRun.Reachable .standard trialLong :=
    htop.tickAlone trialCourse_deserted rfl Course.trialMoment 1500000000
  have deserted := trialCourse_deserted.tickAlone Course.trialMoment
  have left : idleTime (Beat.elapsed ⟨1000000000, none⟩ trialLong.now) trialLong.rate = none := by
    rw [hlong.coherent.rate_eq, idleTime_eq_none_iff]
    decide
  have hyielding := hlong.step (.move (.overrun rfl deserted.idle rfl left))
  have hagain := hyielding.step (.move (.resume rfl))
  exact hagain.tickAlone deserted rfl Course.trialMoment 0

private def trialWorld : World where
  scheduler := .new .standard
  allocator := .scripted ⟨[], .atOnce (.refused (.transport ""))⟩
  notifier := .log
  channel := .quiet
  fresh := fun k => ⟨BitVec.ofNat 128 k⟩
  today := Course.trialMoment
  now := 0
  due := [(300, .send false), (700, .send false)]
  trace := []

private theorem trialWorld_quiet : ∀ k ≤ 2, (beat^[k] trialWorld).channel.stops = false := by
  decide +kernel

/-- The second tick is on time although the wait before it was disturbed, and the third follows it at
once. So it is in a rehearsal with updates in the wait. -/
theorem trial_keeps_pace :
    TimedRun.Reachable .standard trialIdle ∧ trialIdle.Waits ∧
    (∃ a past, trialIdle.beats = a :: past ∧
      trialIdle.due = a.start + Settings.standard.tickRate.nanos) ∧
    TimedRun.Reachable .standard trialBeats ∧
    (∃ d : Duration, some ⟨5000000⟩ = some d ∧ 1000000000 = 0 + max d.nanos 1000000000) ∧
    (∃ d : Duration, some ⟨1500000000⟩ = some d ∧
      2500000000 = 1000000000 + max d.nanos 1000000000) ∧
    (∀ k ≤ 2, (beat^[k] trialWorld).channel.stops = false) ∧
    ∃ d, (beat^[1] trialWorld).tick.now = (beat^[1] trialWorld).now + d ∧
      (beat^[2] trialWorld).now = (beat^[1] trialWorld).now + max d 1000 := by
  obtain ⟨_, keeps, _, rehearsed⟩ := ticks_keep_pace .standard
  have paced := keeps trialBeats trialBeats_reachable
  have waits : trialIdle.Waits := Or.inl rfl
  obtain ⟨d, took, hstart, _⟩ := paced.starts [_] _ _ [] rfl
  obtain ⟨e, took', hstart', _⟩ := paced.starts [] _ _ _ rfl
  exact ⟨trialIdle_reachable, waits, ((keeps _ trialIdle_reachable).waits waits).1,
    trialBeats_reachable, ⟨d, took, hstart⟩, ⟨e, took', hstart'⟩, trialWorld_quiet,
    (rehearsed trialWorld 1000 1 rfl trialWorld_quiet).2⟩

end KeepsPace

end Matchmaking
