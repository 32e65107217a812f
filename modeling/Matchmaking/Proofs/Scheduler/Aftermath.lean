import Matchmaking.Proofs.Scheduler.Coherence

/-!
# The queue after a tick

Which wishes wait once the requeue step of a tick has been taken, and in which order: those put back
come before those that came in during the tick.
-/

namespace Matchmaking

open Allocation Entries

theorem Scheduler.queue_announced (s : Scheduler) (v : Verdict) :
    (s.announced v).1.queue = s.queue := by
  unfold announced
  split
  · cases v <;> rfl
  · rfl

namespace TickRecord

variable {settings : Settings} {t : TickRecord}

/-- The players put back come match by match and ticket by ticket, without those who have asked
again. -/
theorem Sound.players_givenBack_requeue (h : t.Sound settings) :
    (t.givenBack .requeue).map Intent.player =
      ((unplaced t.ends).flatMap Match.players).filter (· ∉ t.during.map Intent.player) := by
  rw [h.givenBack_requeue, ← players_intentsOf, List.filter_map]
  rfl

end TickRecord

namespace Course

/-- After the requeue step of a tick, every task of which has ended by then, the queue holds the
players who are put back, then those who came in since the drain, and then takes up wishes as ever.
Under the requeue policy the players of failed matches are put back, in the order in which the tasks
ended and in ticket order, unless they have asked again, each with the wish that was drained. Those
who came in stand in the order of their first wishes, each with the last one. How announcements go
makes no difference. -/
theorem queue_after_requeue {settings : Settings} {c : Course} (h : Reachable settings c)
    {t : TickRecord} {past : List TickRecord} (ticks : c.ticks = t :: past)
    (settled : t.settled = true) :
    t.ended.Perm t.games ∧
    (∃ restored resubmitted,
      c.scheduler.queue.intents = writeAll (restored ++ resubmitted) t.after ∧
      (settings.failurePolicy = .drop → restored = []) ∧
      (settings.failurePolicy = .requeue → restored.map Intent.player =
        ((unplaced t.ends).flatMap Match.players).filter (· ∉ t.during.map Intent.player)) ∧
      (∀ i ∈ restored, i ∈ t.drained) ∧
      resubmitted.map Intent.player = (firsts t.during).map Intent.player ∧
      (∀ i ∈ resubmitted, last? t.during i.player = some i.autoTeleport) ∧
      c.scheduler.queue.intents.map Intent.player =
        (restored ++ resubmitted ++ newcomers (restored ++ resubmitted) t.after).map
          Intent.player ∧
      ∀ p, first? c.scheduler.queue.intents p =
        (last? t.after p).or (first? (restored ++ resubmitted) p)) ∧
    ∀ m v, (c.announce m v).scheduler.queue = c.scheduler.queue := by
  have hcoherent := h.coherent
  have hmem : t ∈ c.ticks := ticks ▸ List.mem_cons_self
  have hsound : t.Sound settings := hcoherent.sound t hmem
  have hended : ∀ m ∈ t.games, m ∈ t.ended := by
    rcases hcoherent.closed_or_waiting hmem with hclosed | ⟨hwaiting, _⟩
    · exact hclosed.all_ended
    · rw [settled] at hwaiting
      cases hwaiting
  have hqueue : c.scheduler.queue.intents =
      writeAll (t.givenBack settings.failurePolicy ++ writeAll [] t.during) t.after := by
    rw [hcoherent.entries t past ticks, TickRecord.entries, settled]
    rfl
  refine ⟨hsound.ended_perm hended,
    ⟨t.givenBack settings.failurePolicy, writeAll [] t.during, hqueue, ?_, ?_,
      fun i => hsound.mem_drained_of_givenBack, players_writeAll_nil t.during,
      fun i => last?_of_mem_writeAll_nil, ?_, ?_⟩,
    fun m v => c.scheduler.queue_announced v⟩
  · intro hdrop
    rw [hdrop]
    rfl
  · intro hrequeue
    rw [hrequeue, hsound.players_givenBack_requeue]
  · rw [hqueue, players_writeAll, ← List.map_append]
  · intro p
    rw [hqueue, first?_writeAll]

/-- The player who was put back keeps the place in front and has the later wish. -/
theorem trial_queue :
    trial.scheduler.queue.intents.map Intent.player = [⟨2⟩, ⟨1⟩] ∧
      first? trial.scheduler.queue.intents ⟨2⟩ = some true := by
  obtain ⟨_, ⟨restored, resubmitted, _, _, hrestored, _, hresubmitted, _, hplayers, hwish⟩, _⟩ :=
    queue_after_requeue trial_reachable.1 trial_ticks rfl
  have hfront : restored.map Intent.player = [⟨2⟩] := hrestored rfl
  have hback : resubmitted.map Intent.player = [⟨1⟩] := hresubmitted
  refine ⟨?_, hwish ⟨2⟩⟩
  rw [hplayers, List.map_append, newcomers, List.map_append, hfront, hback]
  rfl

end Course

end Matchmaking
