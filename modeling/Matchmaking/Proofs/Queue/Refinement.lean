import Matchmaking.Proofs.Queue.Entries

/-!
# The queue as an ordered map

The order of a queue and its table of wishes stay in step, and seen through its entries every call
does what an ordered map does.
-/

namespace Matchmaking.TicketQueue

open Entries

/-- The order lists every player with a wish once, and nobody else. -/
structure WellFormed (q : TicketQueue) : Prop where
  nodup : q.order.Nodup
  mem_order_iff : ∀ p, p ∈ q.order ↔ p ∈ q.wishes

/-! ## The entries of a queue -/

section Entries

variable {q : TicketQueue} {p : PlayerId} {v : Bool}

private theorem first?_filterMap (wishes : Std.HashMap PlayerId Bool) (ps : List PlayerId)
    (p : PlayerId) :
    first? (ps.filterMap fun p => wishes[p]?.map fun wish => ⟨p, wish⟩) p =
      if p ∈ ps then wishes[p]? else none := by
  induction ps with
  | nil => rfl
  | cons r rs ih =>
      cases hr : wishes[r]? with
      | none =>
          rw [List.filterMap_cons_none (by rw [hr]; rfl), ih]
          by_cases hp : p = r <;> simp [hp, hr]
      | some wish =>
          rw [List.filterMap_cons_some (by rw [hr]; rfl), first?_cons, ih]
          by_cases hp : p = r
          · simp [hp, hr]
          · simp [hp, Ne.symm hp]

/-- Nobody is passed over: the entries are those of the players in order. -/
theorem WellFormed.players_intents (h : q.WellFormed) : q.intents.map Intent.player = q.order := by
  have hsome : ∀ p ∈ q.order,
      (q.wishes[p]?.map fun wish => (⟨p, wish⟩ : Intent)).map Intent.player = some p := by
    intro p hp
    obtain ⟨wish, hw⟩ := Option.isSome_iff_exists.mp
      (Std.HashMap.mem_iff_isSome_getElem?.mp ((h.mem_order_iff p).mp hp))
    rw [hw]
    rfl
  rw [intents, List.map_filterMap, List.filterMap_congr hsome, List.filterMap_some]

theorem WellFormed.first?_intents (h : q.WellFormed) (p : PlayerId) :
    first? q.intents p = q.wishes[p]? := by
  rw [intents, first?_filterMap]
  split
  · rfl
  · rename_i hp
    exact (Std.HashMap.getElem?_eq_none (mt (h.mem_order_iff p).mpr hp)).symm

theorem WellFormed.nodup_players (h : q.WellFormed) : (q.intents.map Intent.player).Nodup :=
  h.players_intents ▸ h.nodup

theorem WellFormed.mem_intents_iff (h : q.WellFormed) :
    ⟨p, v⟩ ∈ q.intents ↔ q.wishes[p]? = some v := by
  rw [mem_iff_first? h.nodup_players, h.first?_intents]

theorem WellFormed.mem_players_iff (h : q.WellFormed) :
    p ∈ q.intents.map Intent.player ↔ p ∈ q.wishes := by
  rw [h.players_intents, h.mem_order_iff]

theorem WellFormed.size_eq (h : q.WellFormed) : q.size = q.intents.length := by
  rw [size, ← h.players_intents, List.length_map]

end Entries

/-! ## One call -/

section Calls

variable {q : TicketQueue}

theorem wellFormed_empty : empty.WellFormed :=
  ⟨List.nodup_nil, fun p => by simp [empty]⟩

theorem WellFormed.submit (h : q.WellFormed) (i : Intent) : (q.submit i).WellFormed := by
  constructor
  · simp only [TicketQueue.submit]
    split
    · exact h.nodup
    · rename_i hi
      exact List.nodup_append_comm.mp
        (List.nodup_cons.mpr ⟨mt (h.mem_order_iff i.player).mp hi, h.nodup⟩)
  · intro p
    simp only [TicketQueue.submit, Std.HashMap.mem_insert, beq_iff_eq]
    split
    · rename_i hi
      rw [h.mem_order_iff]
      constructor
      · exact Or.inr
      · rintro (rfl | hp) <;> assumption
    · rw [List.mem_append, List.mem_singleton, h.mem_order_iff, or_comm, eq_comm]

theorem WellFormed.intents_submit (h : q.WellFormed) (i : Intent) :
    (q.submit i).intents = write q.intents i := by
  have hs := h.submit i
  apply Entries.ext _ hs.nodup_players
  · intro p
    rw [hs.first?_intents, first?_write, h.first?_intents, TicketQueue.submit,
      Std.HashMap.getElem?_insert]
    simp only [beq_iff_eq]
  · rw [hs.players_intents, players_write, h.players_intents]
    simp only [TicketQueue.submit, h.mem_order_iff]

theorem WellFormed.intents_submit_submit (h : q.WellFormed) {i j : Intent}
    (same : i.player = j.player) : ((q.submit i).submit j).intents = (q.submit j).intents := by
  rw [(h.submit i).intents_submit, h.intents_submit, h.intents_submit, write_write same]

private theorem players_restore (wishes : Std.HashMap PlayerId Bool) (is : List Intent) :
    (restore wishes is).1 = ((firsts is).filter (·.player ∉ wishes)).map Intent.player := by
  induction is generalizing wishes with
  | nil => rfl
  | cons i is ih =>
      rw [restore, firsts]
      split
      · rename_i hi
        rw [ih, List.filter_cons_of_neg (by simpa using hi), List.filter_filter]
        congr 1
        apply List.filter_congr
        intro j _
        by_cases hj : j.player ∈ wishes
        · simp [hj]
        · have hne : j.player ≠ i.player := fun he => hj (he ▸ hi)
          simp [hj, hne]
      · rename_i hi
        rw [List.filter_cons_of_pos (by simpa using hi), List.filter_filter, List.map_cons]
        dsimp only
        rw [ih]
        congr 2
        apply List.filter_congr
        intro j _
        by_cases hj : j.player = i.player
        · simp [hj]
        · have hji : ¬i.player = j.player := fun he => hj he.symm
          simp [Std.HashMap.mem_insert, hj, hji]

theorem getElem?_restore (wishes : Std.HashMap PlayerId Bool) (is : List Intent)
    (p : PlayerId) : (restore wishes is).2[p]? = wishes[p]?.or (first? is p) := by
  induction is generalizing wishes with
  | nil => exact Option.or_none.symm
  | cons i is ih =>
      rw [restore, first?_cons]
      split
      · rename_i hi
        rw [ih]
        by_cases hp : i.player = p
        · obtain ⟨wish, hw⟩ := Option.isSome_iff_exists.mp
            (Std.HashMap.mem_iff_isSome_getElem?.mp (hp ▸ hi))
          rw [hw]
          rfl
        · rw [if_neg hp]
      · rename_i hi
        dsimp only
        rw [ih, Std.HashMap.getElem?_insert]
        by_cases hp : i.player = p
        · subst hp
          rw [if_pos BEq.rfl, if_pos rfl, Std.HashMap.getElem?_eq_none hi]
          rfl
        · rw [if_neg (by simpa using hp), if_neg hp]

private theorem mem_restore (wishes : Std.HashMap PlayerId Bool) (is : List Intent)
    (p : PlayerId) : p ∈ (restore wishes is).2 ↔ p ∈ wishes ∨ p ∈ is.map Intent.player := by
  rw [Std.HashMap.mem_iff_isSome_getElem?, getElem?_restore, Option.isSome_or, Bool.or_eq_true,
    isSome_first?, ← Std.HashMap.mem_iff_isSome_getElem?]

private theorem WellFormed.filter_firsts (h : q.WellFormed) (is : List Intent) :
    (firsts is).filter (·.player ∉ q.wishes) = newcomers q.intents is := by
  apply List.filter_congr
  intro i _
  simp only [h.mem_players_iff]

theorem WellFormed.players_requeue (h : q.WellFormed) (is : List Intent) :
    (q.requeue is).2.order = (newcomers q.intents is).map Intent.player ++ q.order := by
  rw [← h.filter_firsts, ← players_restore]
  rfl

theorem WellFormed.requeue (h : q.WellFormed) (is : List Intent) :
    (q.requeue is).2.WellFormed := by
  constructor
  · rw [h.players_requeue, List.nodup_append]
    refine ⟨newcomers_nodup _ _, h.nodup, ?_⟩
    rintro p hp r hr rfl
    rw [mem_players_newcomers, h.players_intents] at hp
    exact hp.1 hr
  · intro p
    have hmem : p ∈ (q.requeue is).2.wishes ↔ p ∈ q.wishes ∨ p ∈ is.map Intent.player :=
      mem_restore q.wishes is p
    rw [hmem, h.players_requeue, List.mem_append, mem_players_newcomers, h.mem_players_iff,
      h.mem_order_iff]
    tauto

theorem WellFormed.intents_requeue (h : q.WellFormed) (is : List Intent) :
    (q.requeue is).2.intents = newcomers q.intents is ++ q.intents := by
  have hr := h.requeue is
  apply Entries.ext _ hr.nodup_players
  · intro p
    rw [hr.first?_intents]
    change (restore q.wishes is).2[p]? = _
    rw [getElem?_restore, first?_append, h.first?_intents, first?_newcomers, h.first?_intents]
    cases q.wishes[p]? <;> simp
  · rw [hr.players_intents, h.players_requeue, List.map_append, h.players_intents]

theorem WellFormed.restored_requeue (h : q.WellFormed) (is : List Intent) :
    (q.requeue is).1 = (newcomers q.intents is).length := by
  change (restore q.wishes is).1.length = _
  rw [players_restore, h.filter_firsts, List.length_map]

end Calls

/-! ## Any number of calls -/

inductive Call where
  | submit (i : Intent)
  | requeue (is : List Intent)
  | drain

inductive Reply where
  | done
  | restored (count : Nat)
  | drained (is : List Intent)

def perform (q : TicketQueue) : Call → Reply × TicketQueue
  | .submit i => (.done, q.submit i)
  | .requeue is => (.restored (q.requeue is).1, (q.requeue is).2)
  | .drain => (.drained q.drain.1, q.drain.2)

def performAll : List Call → TicketQueue → List Reply × TicketQueue
  | [], q => ([], q)
  | c :: cs, q =>
      let rest := performAll cs (q.perform c).2
      ((q.perform c).1 :: rest.1, rest.2)

/-- What a call does to entries in order. -/
def performEntries (es : List Intent) : Call → Reply × List Intent
  | .submit i => (.done, write es i)
  | .requeue is => (.restored (newcomers es is).length, newcomers es is ++ es)
  | .drain => (.drained es, [])

def performAllEntries : List Call → List Intent → List Reply × List Intent
  | [], es => ([], es)
  | c :: cs, es =>
      let rest := performAllEntries cs (performEntries es c).2
      ((performEntries es c).1 :: rest.1, rest.2)

theorem WellFormed.perform {q : TicketQueue} (h : q.WellFormed) (c : Call) :
    (q.perform c).2.WellFormed := by
  cases c with
  | submit i => exact h.submit i
  | requeue is => exact h.requeue is
  | drain => exact wellFormed_empty

theorem WellFormed.performEntries_intents {q : TicketQueue} (h : q.WellFormed) (c : Call) :
    performEntries q.intents c = ((q.perform c).1, (q.perform c).2.intents) := by
  cases c with
  | submit i => exact congrArg _ (h.intents_submit i).symm
  | requeue is =>
      simp only [performEntries, TicketQueue.perform, h.intents_requeue, h.restored_requeue]
  | drain => rfl

theorem WellFormed.performAll {q : TicketQueue} (h : q.WellFormed) (cs : List Call) :
    (performAll cs q).2.WellFormed := by
  induction cs generalizing q with
  | nil => exact h
  | cons c cs ih => exact ih (h.perform c)

theorem WellFormed.performAllEntries_intents {q : TicketQueue} (h : q.WellFormed)
    (cs : List Call) :
    performAllEntries cs q.intents =
      ((TicketQueue.performAll cs q).1, (TicketQueue.performAll cs q).2.intents) := by
  induction cs generalizing q with
  | nil => rfl
  | cons c cs ih =>
      simp only [performAllEntries, TicketQueue.performAll, h.performEntries_intents,
        ih (h.perform c)]

/-- After any calls to an empty queue, order and table list the same players, a drain hands out each
of them once with the wish in the table, and every call replies and changes the entries as it does
on entries in order. -/
theorem performAll_refines_entries (cs : List Call) :
    let q := (performAll cs empty).2
    (q.order.Nodup ∧ ∀ p, p ∈ q.order ↔ p ∈ q.wishes) ∧
    (q.drain.1.map Intent.player = q.order ∧
      ∀ i ∈ q.drain.1, q.wishes[i.player]? = some i.autoTeleport) ∧
    (q.drain.2.intents = [] ∧ q.drain.2.size = 0) ∧
    q.size = q.drain.1.length ∧
    (∀ i, (q.submit i).intents = write q.intents i) ∧
    (∀ is, (q.requeue is).2.intents = newcomers q.intents is ++ q.intents ∧
      (q.requeue is).1 = (newcomers q.intents is).length) ∧
    performAllEntries cs [] = ((performAll cs empty).1, q.intents) := by
  intro q
  have h : q.WellFormed := wellFormed_empty.performAll cs
  refine ⟨⟨h.nodup, h.mem_order_iff⟩, ⟨h.players_intents, ?_⟩, ⟨rfl, rfl⟩, h.size_eq,
    h.intents_submit, fun is => ⟨h.intents_requeue is, h.restored_requeue is⟩,
    wellFormed_empty.performAllEntries_intents cs⟩
  intro i hi
  exact h.mem_intents_iff.mp hi

end Matchmaking.TicketQueue
