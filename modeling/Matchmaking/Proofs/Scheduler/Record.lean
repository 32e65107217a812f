import Mathlib.Data.List.Flatten
import Mathlib.Data.List.Pairwise
import Mathlib.Data.List.Perm.Subperm
import Matchmaking.Proofs.Scheduler.Course

/-!
# The record of a tick

A tick drains every player once, so its matches share no player, and the wishes of any of them can be
read off the matches again. From this follow the queue that the tick leaves and the numbers it
reports.
-/

namespace Matchmaking

open Allocation Entries

/-- How matches are put together under given settings. -/
def Settings.assembler (s : Settings) : Assembler := .new s.fleet s.gameMode s.playersPerMatch

section Players

variable {ms ns : List Match} {m n : Match} {p : PlayerId}

theorem intentsOf_subset (h : ms ⊆ ns) : intentsOf ms ⊆ intentsOf ns := by
  intro i hi
  obtain ⟨m, hm, hi⟩ := List.mem_flatMap.mp hi
  exact List.mem_flatMap.mpr ⟨m, h hm, hi⟩

theorem nodup_players_intentsOf (hn : ((intentsOf ns).map Intent.player).Nodup) (hm : ms.Nodup)
    (hs : ms ⊆ ns) : ((intentsOf ms).map Intent.player).Nodup := by
  obtain ⟨ks, hperm, hsub⟩ := hm.subperm hs
  have hks : (ks.flatMap Match.players).Nodup := by
    rw [players_intentsOf] at hn
    exact hn.sublist (hsub.flatMap _)
  rw [players_intentsOf]
  exact (hperm.flatMap_right _).nodup_iff.mp hks

/-- Matches that share no player are told apart by any of their players. -/
theorem eq_of_mem_players (h : (ms.flatMap Match.players).Nodup) (hm : m ∈ ms) (hn : n ∈ ms)
    (hpm : p ∈ m.players) (hpn : p ∈ n.players) : m = n := by
  by_contra hne
  have hsymm : Std.Symm (Function.onFun List.Disjoint Match.players) :=
    ⟨fun _ _ hd _ hb ha => hd ha hb⟩
  exact (List.nodup_flatMap.mp h).2.forall hm hn hne hpm hpn

end Players

namespace TickRecord

/-- What holds of a tick from its start: the matches are assembled from the drained wishes and told
apart by their identifiers, and a task ends at most once. -/
structure Sound (settings : Settings) (t : TickRecord) : Prop where
  found : t.found.WellFormed
  batch : ∃ fresh made now, t.batch = settings.assembler.assemble fresh made now t.drained
  distinct : (t.games.map Match.id).Nodup
  ended_subset : t.ended ⊆ t.games
  ended_nodup : t.ended.Nodup

/-- The requeue step has been taken, after the end of every task. -/
structure Closed (t : TickRecord) : Prop where
  settled : t.settled = true
  all_ended : ∀ m ∈ t.games, m ∈ t.ended

/-- Every match with a server has been announced, in the order in which the tasks ended. -/
structure Over (t : TickRecord) : Prop extends t.Closed where
  told_eq : t.told.map Prod.fst = placed t.ends

/-- The wishes that the requeue step puts back: those of failed matches whose players have not asked
again. -/
def givenBack (policy : FailurePolicy) (t : TickRecord) : List Intent :=
  match policy with
  | .drop => []
  | .requeue => newcomers t.during (intentsOf (unplaced t.ends))

/-- The entries of the queue since the drain. -/
def entries (policy : FailurePolicy) (t : TickRecord) : List Intent :=
  if t.settled then writeAll (t.givenBack policy ++ writeAll [] t.during) t.after
  else writeAll [] t.during

def drains (p : PlayerId) (t : TickRecord) : Bool := p ∈ t.drained.map Intent.player

section Hear

variable (t : TickRecord) (i : Intent)

theorem hear_of_unsettled (h : t.settled = false) :
    t.hear i = { t with during := t.during ++ [i] } := by
  rw [hear, h]
  rfl

theorem hear_of_settled (h : t.settled = true) :
    t.hear i = { t with after := t.after ++ [i] } := by
  rw [hear, h]
  rfl

theorem hear_found : (t.hear i).found = t.found := by
  unfold TickRecord.hear
  split <;> rfl

theorem hear_batch : (t.hear i).batch = t.batch := by
  unfold TickRecord.hear
  split <;> rfl

theorem hear_ends : (t.hear i).ends = t.ends := by
  unfold TickRecord.hear
  split <;> rfl

theorem hear_settled : (t.hear i).settled = t.settled := by
  unfold TickRecord.hear
  split <;> rfl

/-- A wish is written into the entries. -/
theorem entries_hear (policy : FailurePolicy) :
    (t.hear i).entries policy = write (t.entries policy) i := by
  cases hs : t.settled with
  | false =>
      rw [t.hear_of_unsettled i hs]
      simp only [entries, hs]
      exact writeAll_append_singleton [] t.during i
  | true =>
      rw [t.hear_of_settled i hs]
      simp only [entries, hs]
      exact writeAll_append_singleton _ t.after i

end Hear

/-- Nobody who has asked again is put back. -/
theorem not_mem_during_of_givenBack {t : TickRecord} {policy : FailurePolicy} {p : PlayerId}
    (hp : p ∈ (t.givenBack policy).map Intent.player) : p ∉ t.during.map Intent.player := by
  cases policy with
  | drop => cases hp
  | requeue => exact (mem_players_newcomers.mp hp).1

section Sound

variable {settings : Settings} {t : TickRecord} {p : PlayerId} {v w : Bool}

theorem Sound.hear (h : t.Sound settings) (i : Intent) : (t.hear i).Sound settings := by
  unfold TickRecord.hear
  split
  · exact ⟨h.found, h.batch, h.distinct, h.ended_subset, h.ended_nodup⟩
  · exact ⟨h.found, h.batch, h.distinct, h.ended_subset, h.ended_nodup⟩

theorem Sound.length_batch (h : t.Sound settings) :
    t.batch.length = (t.drained.length + max settings.playersPerMatch 1 - 1) /
      max settings.playersPerMatch 1 := by
  obtain ⟨fresh, made, now, hb⟩ := h.batch
  rw [hb]
  exact Assembler.length_assemble _ _ _ _ _

theorem Sound.intentsOf_games (h : t.Sound settings) : intentsOf t.games = t.drained := by
  obtain ⟨fresh, made, now, hb⟩ := h.batch
  rw [games, hb, Assembler.intentsOf_assemble]

theorem Sound.sum_ticketCount (h : t.Sound settings) :
    (t.games.map Match.ticketCount).sum = t.drained.length := by
  obtain ⟨fresh, made, now, hb⟩ := h.batch
  rw [games, hb, Assembler.sum_ticketCount_assemble]

theorem Sound.nodup_drained (h : t.Sound settings) : (t.drained.map Intent.player).Nodup :=
  h.found.nodup_players

theorem Sound.drained_unique (h : t.Sound settings) (hv : ⟨p, v⟩ ∈ t.drained)
    (hw : ⟨p, w⟩ ∈ t.drained) : v = w := by
  have hv' := (mem_iff_first? h.nodup_drained).mp hv
  have hw' := (mem_iff_first? h.nodup_drained).mp hw
  exact Option.some.inj (hv'.symm.trans hw')

theorem Sound.nodup_games (h : t.Sound settings) : t.games.Nodup := h.distinct.of_map

theorem Sound.nodup_players (h : t.Sound settings) : (t.games.flatMap Match.players).Nodup := by
  rw [← players_intentsOf, h.intentsOf_games]
  exact h.nodup_drained

theorem Sound.exists_game (h : t.Sound settings) (hp : p ∈ t.drained.map Intent.player) :
    ∃ m ∈ t.games, p ∈ m.players := by
  rw [← h.intentsOf_games, players_intentsOf] at hp
  exact List.mem_flatMap.mp hp

theorem Sound.unplaced_subset (h : t.Sound settings) : unplaced t.ends ⊆ t.games :=
  fun _ hm => h.ended_subset ((unplaced_sublist t.ends).subset hm)

theorem Sound.nodup_unplaced (h : t.Sound settings) :
    ((intentsOf (unplaced t.ends)).map Intent.player).Nodup := by
  have hgames : ((intentsOf t.games).map Intent.player).Nodup := by
    rw [h.intentsOf_games]
    exact h.nodup_drained
  exact nodup_players_intentsOf hgames (h.ended_nodup.sublist (unplaced_sublist t.ends))
    h.unplaced_subset

theorem Sound.mem_drained_of_unplaced (h : t.Sound settings) {i : Intent}
    (hi : i ∈ intentsOf (unplaced t.ends)) : i ∈ t.drained := by
  rw [← h.intentsOf_games]
  exact intentsOf_subset h.unplaced_subset hi

/-- The tasks that have ended are never more than the matches, and all of them once each match's
task has ended. -/
theorem Sound.ended_perm (h : t.Sound settings) (hall : ∀ m ∈ t.games, m ∈ t.ended) :
    t.ended.Perm t.games :=
  (List.perm_ext_iff_of_nodup h.ended_nodup h.nodup_games).mpr
    fun m => ⟨fun hm => h.ended_subset hm, hall m⟩

theorem Sound.length_ends_lt (h : t.Sound settings) {m : Match} (hm : m ∈ t.games)
    (hnew : m ∉ t.ended) : t.ends.length < t.batch.length := by
  have hnd : (m :: t.ended).Nodup := List.nodup_cons.mpr ⟨hnew, h.ended_nodup⟩
  have hsub : m :: t.ended ⊆ t.games := List.cons_subset.mpr ⟨hm, h.ended_subset⟩
  have hlen := (hnd.subperm hsub).length_le
  simp only [List.length_cons, ended, games, gamesOf, List.length_map] at hlen
  exact hlen

theorem Sound.length_ends_eq (h : t.Sound settings) (hall : ∀ m ∈ t.games, m ∈ t.ended) :
    t.ends.length = t.batch.length := by
  have hlen := (h.ended_perm hall).length_eq
  simpa [ended, games, gamesOf] using hlen

theorem Sound.givenBack_requeue (h : t.Sound settings) :
    t.givenBack .requeue =
      (intentsOf (unplaced t.ends)).filter (·.player ∉ t.during.map Intent.player) := by
  rw [givenBack, newcomers, firsts_eq_self h.nodup_unplaced]

theorem Sound.mem_drained_of_givenBack (h : t.Sound settings) {policy : FailurePolicy} {i : Intent}
    (hi : i ∈ t.givenBack policy) : i ∈ t.drained := by
  cases policy with
  | drop => cases hi
  | requeue =>
      rw [h.givenBack_requeue] at hi
      exact h.mem_drained_of_unplaced (List.mem_filter.mp hi).1

end Sound

end TickRecord

end Matchmaking
