import Matchmaking.Proofs.Scheduler.Clock
import Matchmaking.Proofs.Scheduler.Rehearsal

/-!
# Time in a rehearsal

In a rehearsal time never goes back, and the settings stay what they were. A rehearsed tick and the
wait after it take as long as the tick or as the tick rate, whichever is more.
-/

namespace Matchmaking

section Settings

variable (s : Scheduler)

theorem Scheduler.settings_resolve (id : MatchId) (o : Allocation.Outcome) :
    (s.resolve id o).1.settings = s.settings := by
  unfold resolve
  split <;> rfl

theorem Scheduler.settings_settle : s.settle.1.settings = s.settings := by
  unfold settle
  split
  · split <;> rfl
  · rfl

theorem Scheduler.settings_announced (v : Verdict) : (s.announced v).1.settings = s.settings := by
  unfold announced
  split
  · split <;> rfl
  · rfl

theorem Scheduler.settings_finish (elapsed : Nat) (now : Time.Timestamp) :
    (s.finish elapsed now).1.settings = s.settings := by
  unfold finish
  split <;> rfl

end Settings

namespace Rehearsal

/-- Time may have passed, and the settings are what they were. -/
structure Passes (w v : World) : Prop where
  settings : v.scheduler.settings = w.scheduler.settings
  now : w.now ≤ v.now

section Passes

variable {u v w : World}

theorem Passes.refl (w : World) : Passes w w := ⟨rfl, Nat.le_refl _⟩

theorem Passes.trans (h : Passes u v) (k : Passes v w) : Passes u w :=
  ⟨k.settings.trans h.settings, Nat.le_trans h.now k.now⟩

theorem passes_step (w : World) {r : Scheduler × Trace}
    (settings : r.1.settings = w.scheduler.settings) : Passes w (w.step r) :=
  ⟨settings, Nat.le_refl _⟩

private theorem receiveAll_eq (signals : List (Nat × Signal)) (w : World) :
    (signals.foldl (fun w s => w.receive s.2) w).now = w.now ∧
      (signals.foldl (fun w s => w.receive s.2) w).scheduler.settings = w.scheduler.settings := by
  induction signals generalizing w with
  | nil => exact ⟨rfl, rfl⟩
  | cons signal signals ih =>
      obtain ⟨hnow, hsettings⟩ := ih (w.receive signal.2)
      rw [List.foldl_cons, hnow, hsettings]
      cases signal.2 <;> exact ⟨rfl, rfl⟩

theorem now_elapseTo (w : World) (moment : Nat) : (w.elapseTo moment).now = max w.now moment :=
  (receiveAll_eq _ _).1

theorem passes_elapseTo (w : World) (moment : Nat) : Passes w (w.elapseTo moment) where
  settings := (receiveAll_eq _ _).2
  now := by
    rw [now_elapseTo]
    exact Nat.le_max_left _ _

theorem passes_awaitReply {α : Type} (w : World) (since : Nat) (reply : Reply α) :
    Passes w (w.awaitReply since reply) :=
  (passes_elapseTo w _).trans ⟨rfl, Nat.le_refl _⟩

theorem passes_endTasks (since : Nat) (tasks : List Task) (w : World) :
    Passes w (World.endTasks since tasks w) := by
  induction tasks generalizing w with
  | nil => exact .refl w
  | cons t rest ih =>
      have hreply := passes_awaitReply w since t.reply
      have hresolved := passes_step (w.awaitReply since t.reply)
        (Scheduler.settings_resolve _ t.id t.reply.verdict)
      exact (hreply.trans hresolved).trans (ih _)

theorem passes_playRounds (since : Nat) (rs : List Round) (w : World) :
    Passes w (rs.foldl (World.playRound since) w) := by
  induction rs generalizing w with
  | nil => exact .refl w
  | cons r rs ih =>
      have hrecord : Passes w (w.record r.trace) := ⟨rfl, Nat.le_refl _⟩
      exact (hrecord.trans (passes_endTasks since r.ended _)).trans (ih _)

theorem passes_announce (left : List Match) (w : World) : Passes w (World.announce left w) := by
  induction left generalizing w with
  | nil => exact .refl w
  | cons m rest ih =>
      let called : World := { w with notifier := (w.notifier.call m).2.1 }
      let replied := (called.awaitReply w.now (w.notifier.call m).1).record (w.notifier.call m).2.2
      have hreply := passes_awaitReply called w.now (w.notifier.call m).1
      have hreplied : Passes w replied := ⟨hreply.settings, hreply.now⟩
      have hannounced := passes_step replied
        (replied.scheduler.settings_announced (w.notifier.call m).1.verdict)
      exact (hreplied.trans hannounced).trans (ih _)

theorem passes_tick (w : World) : Passes w w.tick := by
  let begun := w.scheduler.begin w.fresh w.now w.today
  let called := w.allocator.callAll begun.2.1
  let start : World :=
    { ({ w with scheduler := begun.1 } : World).record begun.2.2 with allocator := called.2 }
  have hstart : Passes w start := ⟨rfl, Nat.le_refl _⟩
  let played := (w.turns.plan called.1).foldl (World.playRound w.now) start
  have hplayed : Passes start played := passes_playRounds _ _ _
  have hsettled := passes_step played played.scheduler.settings_settle
  let settled := played.step played.scheduler.settle
  have hannounced := passes_announce (World.unannounced settled.scheduler) settled
  let announced := World.announce (World.unannounced settled.scheduler) settled
  have hfinished := passes_step announced
    (announced.scheduler.settings_finish announced.now announced.today)
  exact (((hstart.trans hplayed).trans hsettled).trans hannounced).trans hfinished

end Passes

/-- A wait lasts until its moment, unless the scheduler has to stop. -/
theorem now_waitUntil {moment fuel : Nat} {w : World} (hnow : w.now ≤ moment)
    (quiet : (World.waitUntil moment fuel w).channel.stops = false) :
    (World.waitUntil moment fuel w).now = moment := by
  have helapse : (w.elapseTo moment).now = moment := by
    rw [now_elapseTo, Nat.max_eq_right hnow]
  induction fuel generalizing w with
  | zero => exact helapse
  | succ fuel ih =>
      unfold World.waitUntil at quiet ⊢
      split at quiet
      · rename_i stops
        rw [quiet] at stops
        cases stops
      · rename_i stops
        rw [if_neg stops]
        cases hdue : w.due with
        | nil => exact helapse
        | cons s later =>
            simp only [hdue] at quiet ⊢
            by_cases soon : s.1 < moment
            · rw [if_pos soon] at quiet ⊢
              have hnext : (w.elapseTo s.1).now ≤ moment := by
                rw [now_elapseTo]
                omega
              apply ih hnext quiet
              rw [now_elapseTo, Nat.max_eq_right hnext]
            · rw [if_neg soon]

/-- After a tick that started at a moment, the next may start at the rate after it, or as soon as the
tick is over. -/
theorem now_rest {w : World} {since rate : Nat}
    (hrate : w.scheduler.settings.tickRate = .ofMillis rate) (hsince : since ≤ w.now)
    (quiet : (w.rest since).channel.stops = false) :
    (w.rest since).now = since + max (w.now - since) rate := by
  rw [rest_eq] at quiet ⊢
  simp only [hrate] at quiet ⊢
  cases left : idleTime (Duration.ofMillis (w.now - since)) (Duration.ofMillis rate) with
  | none =>
      rw [idleTime_eq_none_iff] at left
      simp only [Duration.ofMillis] at left
      change w.now = _
      omega
  | some idle =>
      rw [left] at quiet
      rw [idleTime_eq_some_iff] at left
      simp only [Duration.ofMillis] at left
      have hmoment : w.now + idle.millis = since + max (w.now - since) rate := by
        rw [Duration.millis]
        omega
      rw [← hmoment]
      exact now_waitUntil (Nat.le_add_right _ _) quiet

theorem settings_waitUntil (moment fuel : Nat) (w : World) :
    (World.waitUntil moment fuel w).scheduler.settings = w.scheduler.settings := by
  induction fuel generalizing w with
  | zero => exact (passes_elapseTo w moment).settings
  | succ fuel ih =>
      unfold World.waitUntil
      split
      · rfl
      · split
        · exact (passes_elapseTo w moment).settings
        · split
          · exact (ih _).trans (passes_elapseTo w _).settings
          · rfl

theorem settings_beat (w : World) : (beat w).scheduler.settings = w.scheduler.settings := by
  have htick := (passes_tick w).settings
  rw [beat, rest_eq]
  simp only
  split
  · exact (settings_waitUntil _ _ _).trans htick
  · exact htick

theorem settings_beats (n : Nat) (w : World) :
    (beat^[n] w).scheduler.settings = w.scheduler.settings := by
  induction n with
  | zero => rfl
  | succ n ih => rw [Function.iterate_succ_apply', settings_beat, ih]

/-- A tick and the wait after it take as long as the tick, and no less than the rate. -/
theorem now_beat {w : World} {rate : Nat}
    (hrate : w.scheduler.settings.tickRate = .ofMillis rate)
    (quiet : (beat w).channel.stops = false) :
    (beat w).now = w.now + max (w.tick.now - w.now) rate := by
  have htick := passes_tick w
  apply now_rest _ htick.now quiet
  rw [htick.settings, hrate]

/-- A rehearsal takes one tick after another. -/
theorem loop_beats {n : Nat} {w : World} (quiet : ∀ k < n, (beat^[k] w).channel.stops = false)
    (fuel : Nat) : World.loop (n + fuel) w = World.loop fuel (beat^[n] w) := by
  induction n generalizing w with
  | zero => rw [Nat.zero_add, Function.iterate_zero_apply]
  | succ n ih =>
      have hfirst : w.channel.stops = false := quiet 0 (Nat.succ_pos n)
      have hrest : ∀ k < n, (beat^[k] (beat w)).channel.stops = false := by
        intro k hk
        rw [← Function.iterate_succ_apply]
        exact quiet (k + 1) (Nat.succ_lt_succ hk)
      rw [Nat.succ_add, World.loop, hfirst, if_neg Bool.false_ne_true, Function.iterate_succ_apply]
      exact ih hrest

end Rehearsal

end Matchmaking
