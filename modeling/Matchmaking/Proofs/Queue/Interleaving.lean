import Mathlib.Data.List.Perm.Basic
import Matchmaking.Proofs.Queue.Refinement

/-!
# Putting wishes back among others that come in

Wishes are put back in a single step, which may fall anywhere among the wishes that come in
meanwhile. Where it falls decides places in the queue, but not who waits with which wish.
-/

namespace Matchmaking.TicketQueue

open Entries

/-- Wishes come in one after another, and others are put back after so many of them. -/
def requeueAfter (q : TicketQueue) (count : Nat) (back came : List Intent) : TicketQueue :=
  ((q.submitAll (came.take count)).requeue back).2.submitAll (came.drop count)

section Table

variable (q : TicketQueue) (p : PlayerId)

theorem submitAll_append_singleton (is : List Intent) (i : Intent) :
    q.submitAll (is ++ [i]) = (q.submitAll is).submit i := by
  simp only [submitAll, List.foldl_append, List.foldl_cons, List.foldl_nil]

theorem getElem?_submit (i : Intent) :
    (q.submit i).wishes[p]? = if i.player = p then some i.autoTeleport else q.wishes[p]? := by
  simp only [submit, Std.HashMap.getElem?_insert, beq_iff_eq]

/-- The last wish that came in counts; without one, the wish of before stays. -/
theorem getElem?_submitAll (is : List Intent) :
    (q.submitAll is).wishes[p]? = (last? is p).or q.wishes[p]? := by
  induction is using List.reverseRecOn with
  | nil => rfl
  | append_singleton is i ih =>
      rw [submitAll_append_singleton, getElem?_submit, ih, last?_append_singleton]
      by_cases hp : i.player = p
      · rw [if_pos hp, if_pos hp, Option.some_or]
      · rw [if_neg hp, if_neg hp]

/-- A wish that waits counts; without one, the first of those put back does. -/
theorem getElem?_requeue (is : List Intent) :
    (q.requeue is).2.wishes[p]? = q.wishes[p]?.or (first? is p) :=
  getElem?_restore q.wishes is p

end Table

theorem WellFormed.submitAll {q : TicketQueue} (h : q.WellFormed) (is : List Intent) :
    (q.submitAll is).WellFormed := by
  induction is using List.reverseRecOn with
  | nil => exact h
  | append_singleton is i ih =>
      rw [submitAll_append_singleton]
      exact ih.submit i

section RequeueAfter

variable {q : TicketQueue}

theorem WellFormed.requeueAfter (h : q.WellFormed) (count : Nat) (back came : List Intent) :
    (q.requeueAfter count back came).WellFormed :=
  ((h.submitAll _).requeue _).submitAll _

/-- What came in before the step and what came in after it add up to the same table, since a wish
that waits is never overwritten by one that is put back. -/
theorem getElem?_requeueAfter (q : TicketQueue) (count : Nat) (back came : List Intent)
    (p : PlayerId) :
    (q.requeueAfter count back came).wishes[p]? =
      (last? came p).or (q.wishes[p]?.or (first? back p)) := by
  have hcame : last? came p = (last? (came.drop count) p).or (last? (came.take count) p) := by
    conv_lhs => rw [← List.take_append_drop count came]
    rw [last?, List.reverse_append, first?_append]
    rfl
  rw [requeueAfter, getElem?_submitAll, getElem?_requeue, getElem?_submitAll, hcame,
    Option.or_assoc, Option.or_assoc]

theorem WellFormed.mem_order_requeueAfter (h : q.WellFormed) (count : Nat)
    (back came : List Intent) (p : PlayerId) :
    p ∈ (q.requeueAfter count back came).order ↔
      p ∈ came.map Intent.player ∨ p ∈ q.order ∨ p ∈ back.map Intent.player := by
  have hcame : (last? came p).isSome ↔ p ∈ came.map Intent.player := by
    rw [Option.isSome_iff_ne_none, ne_eq, last?_eq_none_iff, not_not]
  have hbefore : q.wishes[p]?.isSome ↔ p ∈ q.order := by
    rw [← Std.HashMap.mem_iff_isSome_getElem?, h.mem_order_iff]
  rw [(h.requeueAfter count back came).mem_order_iff, Std.HashMap.mem_iff_isSome_getElem?,
    getElem?_requeueAfter, Option.isSome_or, Option.isSome_or, Bool.or_eq_true, Bool.or_eq_true,
    hcame, hbefore, isSome_first?]

theorem WellFormed.intents_perm {r : TicketQueue} (hq : q.WellFormed) (hr : r.WellFormed)
    (h : ∀ p : PlayerId, q.wishes[p]? = r.wishes[p]?) :
    q.intents.Perm r.intents := by
  rw [List.perm_ext_iff_of_nodup hq.nodup_players.of_map hr.nodup_players.of_map]
  rintro ⟨p, v⟩
  rw [hq.mem_intents_iff, hr.mem_intents_iff, h]

/-- After any calls, wishes may be put back before, among or after others that come in: a player who
comes in ends with the last wish, another keeps the wish that waited, and a player without either
gets the first of those put back. The same players wait, and a drain hands out the same wishes in
some order. -/
theorem requeueAfter_count_irrelevant (calls : List Call) (back came : List Intent)
    (count : Nat) :
    let q := (performAll calls empty).2
    let r := q.requeueAfter count back came
    (∀ p : PlayerId, r.wishes[p]? = (last? came p).or (q.wishes[p]?.or (first? back p))) ∧
    (r.order.Nodup ∧ ∀ p, p ∈ r.order ↔
      p ∈ came.map Intent.player ∨ p ∈ q.order ∨ p ∈ back.map Intent.player) ∧
    ∀ other, (∀ p : PlayerId, r.wishes[p]? = (q.requeueAfter other back came).wishes[p]?) ∧
      (∀ p, p ∈ r.order ↔ p ∈ (q.requeueAfter other back came).order) ∧
      r.drain.1.Perm (q.requeueAfter other back came).drain.1 := by
  intro q r
  have hq : q.WellFormed := wellFormed_empty.performAll calls
  have hr : r.WellFormed := hq.requeueAfter count back came
  have hsame (other : Nat) (p : PlayerId) :
      r.wishes[p]? = (q.requeueAfter other back came).wishes[p]? := by
    rw [getElem?_requeueAfter, getElem?_requeueAfter]
  refine ⟨getElem?_requeueAfter q count back came, ⟨hr.nodup, ?_⟩, fun other => ?_⟩
  · exact hq.mem_order_requeueAfter count back came
  · have hother := hq.requeueAfter other back came
    refine ⟨hsame other, fun p => ?_, hr.intents_perm hother (hsame other)⟩
    rw [hq.mem_order_requeueAfter, hq.mem_order_requeueAfter]

end RequeueAfter

end Matchmaking.TicketQueue
