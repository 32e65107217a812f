import Mathlib.Algebra.BigOperators.Group.List.Basic
import Mathlib.Data.List.Nodup
import Matchmaking.Allocation.FanOut
import Matchmaking.Proofs.Allocation.Partition

/-!
# Resolving a batch

When the matches of a batch have different identifiers, what a batch says of a match is decided by
the end of that match's own task, in whatever order the tasks end.
-/

namespace Matchmaking.Allocation

theorem Outcome.result_eq_ok_iff {o : Outcome} {a : Assignment} :
    o.result = .ok a ↔ ∃ r, o = .answered r ∧ r.assignment = .ok a := by
  cases o <;> simp [result]

/-- How the task of a match ended. -/
structure Ending where
  game : Match
  outcome : Outcome
  deriving DecidableEq

/-- The matches with a server, in the order in which their tasks ended. -/
def placed (es : List Ending) : List Match :=
  es.filterMap fun e =>
    match e.outcome.result with
    | .ok a => some (e.game.assign a)
    | .error _ => none

/-- The matches without a server, in the order in which their tasks ended. -/
def unplaced (es : List Ending) : List Match :=
  es.filterMap fun e =>
    match e.outcome.result with
    | .ok _ => none
    | .error _ => some e.game

section Endings

variable {es : List Ending} {e : Ending} {m : Match}

theorem mem_placed_iff :
    m ∈ placed es ↔ ∃ e ∈ es, ∃ a, e.outcome.result = .ok a ∧ m = e.game.assign a := by
  rw [placed, List.mem_filterMap]
  constructor
  · rintro ⟨e, he, hm⟩
    split at hm
    · rename_i a ha
      exact ⟨e, he, a, ha, (Option.some.inj hm).symm⟩
    · cases hm
  · rintro ⟨e, he, a, ha, rfl⟩
    exact ⟨e, he, by rw [ha]⟩

theorem mem_unplaced_iff :
    m ∈ unplaced es ↔ ∃ e ∈ es, ∃ why, e.outcome.result = .error why ∧ m = e.game := by
  rw [unplaced, List.mem_filterMap]
  constructor
  · rintro ⟨e, he, hm⟩
    split at hm
    · cases hm
    · rename_i why hwhy
      exact ⟨e, he, why, hwhy, (Option.some.inj hm).symm⟩
  · rintro ⟨e, he, why, hwhy, rfl⟩
    exact ⟨e, he, by rw [hwhy]⟩

theorem placed_append_singleton (es : List Ending) (e : Ending) :
    placed (es ++ [e]) =
      match e.outcome.result with
      | .ok a => placed es ++ [e.game.assign a]
      | .error _ => placed es := by
  rw [placed, List.filterMap_append]
  cases h : e.outcome.result <;> simp [placed, h]

theorem unplaced_append_singleton (es : List Ending) (e : Ending) :
    unplaced (es ++ [e]) =
      match e.outcome.result with
      | .ok _ => unplaced es
      | .error _ => unplaced es ++ [e.game] := by
  rw [unplaced, List.filterMap_append]
  cases h : e.outcome.result <;> simp [unplaced, h]

theorem placed_cons_of_ok {a : Assignment} (h : e.outcome.result = .ok a) (es : List Ending) :
    placed (e :: es) = e.game.assign a :: placed es :=
  List.filterMap_cons_some (by rw [h])

theorem placed_cons_of_error {why : Error} (h : e.outcome.result = .error why)
    (es : List Ending) : placed (e :: es) = placed es :=
  List.filterMap_cons_none (by rw [h])

theorem unplaced_cons_of_ok {a : Assignment} (h : e.outcome.result = .ok a) (es : List Ending) :
    unplaced (e :: es) = unplaced es :=
  List.filterMap_cons_none (by rw [h])

theorem unplaced_cons_of_error {why : Error} (h : e.outcome.result = .error why)
    (es : List Ending) : unplaced (e :: es) = e.game :: unplaced es :=
  List.filterMap_cons_some (by rw [h])

theorem unplaced_sublist (es : List Ending) : (unplaced es).Sublist (es.map Ending.game) := by
  induction es with
  | nil => exact List.Sublist.slnil
  | cons e es ih =>
      cases h : e.outcome.result with
      | ok a =>
          rw [unplaced_cons_of_ok h]
          exact ih.cons _
      | error why =>
          rw [unplaced_cons_of_error h]
          exact ih.cons_cons _

section Kept

variable {α : Type} (f : Match → α) (hf : ∀ m a, f (m.assign a) = f m)

include hf

theorem map_placed_sublist (es : List Ending) :
    ((placed es).map f).Sublist ((es.map Ending.game).map f) := by
  induction es with
  | nil => exact List.Sublist.slnil
  | cons e es ih =>
      cases h : e.outcome.result with
      | ok a =>
          rw [placed_cons_of_ok h, List.map_cons, hf]
          exact ih.cons_cons _
      | error why =>
          rw [placed_cons_of_error h]
          exact ih.cons _

/-- What a server does not change is the same over the matches with and without one as over all. -/
theorem map_placed_append_unplaced_perm (es : List Ending) :
    ((placed es ++ unplaced es).map f).Perm ((es.map Ending.game).map f) := by
  induction es with
  | nil => exact .refl _
  | cons e es ih =>
      rw [List.map_cons, List.map_cons]
      cases h : e.outcome.result with
      | ok a =>
          rw [placed_cons_of_ok h, unplaced_cons_of_ok h, List.cons_append, List.map_cons, hf]
          exact ih.cons _
      | error why =>
          rw [placed_cons_of_error h, unplaced_cons_of_error h]
          exact (List.perm_middle.map f).trans (ih.cons _)

end Kept

theorem placed_ids_sublist (es : List Ending) :
    ((placed es).map Match.id).Sublist ((es.map Ending.game).map Match.id) :=
  map_placed_sublist Match.id (fun _ _ => rfl) es

/-- A number that a server does not change adds up over the matches with and without one. -/
theorem sum_placed_add_sum_unplaced (f : Match → Nat) (hf : ∀ m a, f (m.assign a) = f m)
    (es : List Ending) :
    ((placed es).map f).sum + ((unplaced es).map f).sum = ((es.map Ending.game).map f).sum := by
  rw [← List.sum_append, ← List.map_append]
  exact (map_placed_append_unplaced_perm f hf es).sum_eq

theorem length_placed_add_length_unplaced (es : List Ending) :
    (placed es).length + (unplaced es).length = es.length := by
  have h := sum_placed_add_sum_unplaced (fun _ => 1) (fun _ _ => rfl) es
  simpa [Function.comp_def] using h

end Endings

/-- Of a table filled from a list with different keys, every entry of the list can be looked up. -/
theorem getElem?_foldl_insert {α κ β : Type} [BEq κ] [LawfulBEq κ] [Hashable κ] (key : α → κ)
    (value : α → β) {xs : List α} (hd : (xs.map key).Nodup) (table : Std.HashMap κ β) :
    (∀ x ∈ xs, (xs.foldl (fun t x => t.insert (key x) (value x)) table)[key x]? =
      some (value x)) ∧
    ∀ k ∉ xs.map key, (xs.foldl (fun t x => t.insert (key x) (value x)) table)[k]? = table[k]? := by
  induction xs generalizing table with
  | nil => exact ⟨fun x hx => absurd hx List.not_mem_nil, fun k _ => rfl⟩
  | cons y ys ih =>
      rw [List.map_cons, List.nodup_cons] at hd
      obtain ⟨hmem, hrest⟩ := ih hd.2 (table.insert (key y) (value y))
      refine ⟨?_, ?_⟩
      · intro x hx
        rcases List.mem_cons.mp hx with rfl | hx
        · rw [List.foldl_cons, hrest _ hd.1, Std.HashMap.getElem?_insert_self]
        · exact hmem x hx
      · intro k hk
        rw [List.map_cons, List.mem_cons, not_or] at hk
        rw [List.foldl_cons, hrest k hk.2, Std.HashMap.getElem?_insert,
          if_neg (by simpa using Ne.symm hk.1)]

namespace FanOut

theorem running_resolve (f : FanOut) (id : MatchId) (o : Outcome) :
    (f.resolve id o).1.running = f.running - 1 := by
  simp only [resolve]
  split
  · rfl
  · split <;> rfl

theorem length_allocated_resolve_le (f : FanOut) (id : MatchId) (o : Outcome) :
    (f.resolve id o).1.allocated.length ≤ f.allocated.length + 1 := by
  simp only [resolve]
  split
  · exact Nat.le_succ _
  · split
    · exact Nat.le_of_eq List.length_append
    · exact Nat.le_succ _

/-- A batch that started with the given matches stands where the given ends lead. -/
structure Tracks (f : FanOut) (pending : List PendingMatch) (es : List Ending) : Prop where
  running : f.running + es.length = pending.length
  waiting : ∀ m ∈ gamesOf pending, m ∉ es.map Ending.game → f.waiting[m.id]? = some m
  allocated : f.allocated = placed es
  failed : f.failed = unplaced es

theorem tracks_start {pending : List PendingMatch}
    (hd : ((gamesOf pending).map Match.id).Nodup) : (start pending).Tracks pending [] where
  running := rfl
  waiting := by
    intro m hm _
    obtain ⟨p, hp, rfl⟩ := List.mem_map.mp hm
    have hkeys : (pending.map fun p => p.game.id).Nodup := by
      simpa only [gamesOf, List.map_map, Function.comp_def] using hd
    exact (getElem?_foldl_insert (fun p : PendingMatch => p.game.id) PendingMatch.game hkeys ∅).1
      p hp
  allocated := rfl
  failed := rfl

/-- The end of a task settles its own match and leaves the others waiting. -/
theorem Tracks.resolve {f : FanOut} {pending : List PendingMatch} {es : List Ending} {m : Match}
    (h : f.Tracks pending es) (hd : ((gamesOf pending).map Match.id).Nodup)
    (hm : m ∈ gamesOf pending) (hnew : m ∉ es.map Ending.game)
    (hrun : es.length < pending.length) (o : Outcome) :
    (f.resolve m.id o).1.Tracks pending (es ++ [⟨m, o⟩]) := by
  have hw := h.waiting m hm hnew
  have hother : ∀ n ∈ gamesOf pending, n ∉ (es ++ [Ending.mk m o]).map Ending.game →
      (f.waiting.erase m.id)[n.id]? = some n := by
    intro n hn hnot
    simp only [List.map_append, List.map_cons, List.map_nil, List.mem_append, not_or,
      List.mem_singleton] at hnot
    have hid : m.id ≠ n.id := fun he =>
      hnot.2 (List.inj_on_of_nodup_map hd hn hm he.symm)
    rw [Std.HashMap.getElem?_erase, if_neg (by simpa using hid)]
    exact h.waiting n hn hnot.1
  have hcount : f.running - 1 + (es ++ [Ending.mk m o]).length = pending.length := by
    have hr := h.running
    rw [List.length_append, List.length_singleton]
    omega
  cases hres : o.result with
  | ok a =>
      simp only [FanOut.resolve, hw, hres]
      refine ⟨hcount, hother, ?_, ?_⟩
      · rw [placed_append_singleton, h.allocated]
        simp only [hres]
      · rw [unplaced_append_singleton, h.failed]
        simp only [hres]
  | error why =>
      simp only [FanOut.resolve, hw, hres]
      refine ⟨hcount, hother, ?_, ?_⟩
      · rw [placed_append_singleton, h.allocated]
        simp only [hres]
      · rw [unplaced_append_singleton, h.failed]
        simp only [hres]

end FanOut

end Matchmaking.Allocation
