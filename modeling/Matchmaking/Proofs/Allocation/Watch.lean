import Matchmaking.Allocation.Watch
import Matchmaking.Proofs.Allocation.Resolution

/-!
# Every match of a batch is dealt with once

However the tasks of a batch end and in whatever order they are heard of, no match is dealt with
twice and a reason is kept for exactly the matches without a server. If the matches have different
identifiers, every match is dealt with, and as its own task says.
-/

namespace Matchmaking.Allocation

namespace FanOut

/-! ## Any ends of tasks -/

/-- No identifier is dealt with twice, and reasons are kept for the matches without a server. -/
structure Orderly (f : FanOut) : Prop where
  waiting_id : ∀ (id : MatchId) (m : Match), f.waiting[id]? = some m → m.id = id
  nodup : ((f.allocated ++ f.failed).map Match.id).Nodup
  not_waiting : ∀ m ∈ f.allocated ++ f.failed, m.id ∉ f.waiting
  errors_iff : ∀ id, id ∈ f.errors ↔ id ∈ f.failed.map Match.id

section Orderly

variable {f : FanOut} {id : MatchId} {m : Match} {o : Outcome}

theorem resolve_of_not_waiting (h : f.waiting[id]? = none) (o : Outcome) :
    (f.resolve id o).1 = { f with running := f.running - 1 } := by
  simp only [resolve, h]

theorem resolve_of_result_ok (h : f.waiting[id]? = some m) {a : Assignment}
    (ho : o.result = .ok a) :
    (f.resolve id o).1 = { f with
      running := f.running - 1
      waiting := f.waiting.erase id
      allocated := f.allocated ++ [m.assign a] } := by
  simp only [resolve, h, ho]

theorem resolve_of_result_error (h : f.waiting[id]? = some m) {why : Error}
    (ho : o.result = .error why) :
    (f.resolve id o).1 = { f with
      running := f.running - 1
      waiting := f.waiting.erase id
      failed := f.failed ++ [m]
      errors := f.errors.insert id why } := by
  simp only [resolve, h, ho]

private theorem id_of_getElem?_foldl_insert (pending : List PendingMatch)
    {ms : Std.HashMap MatchId Match}
    (h : ∀ (id : MatchId) (m : Match), ms[id]? = some m → m.id = id)
    (hm : (pending.foldl (fun ms p => ms.insert p.game.id p.game) ms)[id]? = some m) :
    m.id = id := by
  induction pending generalizing ms with
  | nil => exact h id m hm
  | cons p ps ih =>
      rw [List.foldl_cons] at hm
      refine ih (fun k n hn => ?_) hm
      rw [Std.HashMap.getElem?_insert] at hn
      by_cases hk : p.game.id = k
      · rw [if_pos (by simpa using hk)] at hn
        rw [← Option.some.inj hn, hk]
      · rw [if_neg (by simpa using hk)] at hn
        exact h k n hn

theorem orderly_start (pending : List PendingMatch) : (start pending).Orderly where
  waiting_id := fun id m hm => id_of_getElem?_foldl_insert pending (fun _ _ h => by simp at h) hm
  nodup := List.nodup_nil
  not_waiting := fun m hm => absurd hm List.not_mem_nil
  errors_iff := fun id => by simp [start]

private theorem Orderly.of_dealt (h : f.Orderly) {g : FanOut} {n : Match}
    (hw : f.waiting[id]? = some m) (hn : n.id = m.id) (waiting : g.waiting = f.waiting.erase id)
    (dealt : (g.allocated ++ g.failed).Perm (n :: (f.allocated ++ f.failed)))
    (errors : ∀ k, k ∈ g.errors ↔ k ∈ g.failed.map Match.id) : g.Orderly where
  waiting_id := by
    intro k x hx
    rw [waiting, Std.HashMap.getElem?_erase] at hx
    split at hx
    · cases hx
    · exact h.waiting_id k x hx
  nodup := by
    have hid : m.id ∈ f.waiting := by
      rw [h.waiting_id id m hw, Std.HashMap.mem_iff_isSome_getElem?, hw]
      rfl
    have hnew : n.id ∉ (f.allocated ++ f.failed).map Match.id := by
      intro hmem
      obtain ⟨x, hx, hxn⟩ := List.mem_map.mp hmem
      apply h.not_waiting x hx
      rw [hxn, hn]
      exact hid
    rw [(dealt.map Match.id).nodup_iff, List.map_cons, List.nodup_cons]
    exact ⟨hnew, h.nodup⟩
  not_waiting := by
    intro x hx
    rw [waiting, Std.HashMap.mem_erase]
    rcases List.mem_cons.mp (dealt.mem_iff.mp hx) with rfl | hx
    · rw [hn, h.waiting_id id m hw]
      simp
    · exact fun hmem => h.not_waiting x hx hmem.2
  errors_iff := errors

theorem Orderly.resolve (h : f.Orderly) (id : MatchId) (o : Outcome) :
    (f.resolve id o).1.Orderly := by
  cases hw : f.waiting[id]? with
  | none =>
      rw [resolve_of_not_waiting hw]
      exact ⟨h.waiting_id, h.nodup, h.not_waiting, h.errors_iff⟩
  | some m =>
      cases ho : o.result with
      | ok a =>
          rw [resolve_of_result_ok hw ho]
          refine h.of_dealt hw (n := m.assign a) rfl rfl ?_ h.errors_iff
          rw [List.append_assoc]
          exact List.perm_middle
      | error why =>
          rw [resolve_of_result_error hw ho]
          refine h.of_dealt hw (n := m) rfl rfl ?_ ?_
          · rw [← List.append_assoc]
            exact List.perm_append_singleton m _
          · intro k
            rw [Std.HashMap.mem_insert, h.errors_iff, List.map_append, List.mem_append,
              List.map_singleton, List.mem_singleton, h.waiting_id id m hw, beq_iff_eq, or_comm,
              eq_comm]

theorem Orderly.resolveAll (h : f.Orderly) (ends : List (MatchId × Outcome)) :
    (f.resolveAll ends).Orderly := by
  induction ends generalizing f with
  | nil => exact h
  | cons x xs ih => exact ih (h.resolve x.1 x.2)

/-- The reason of a match without a server is never missing. -/
theorem Orderly.exists_reason (h : f.Orderly) (hm : m ∈ f.failed) :
    ∃ why, f.errors[m.id]? = some why ∧ f.reason m.id = why.message := by
  have hkey : m.id ∈ f.errors := (h.errors_iff m.id).mpr (List.mem_map_of_mem hm)
  obtain ⟨why, hwhy⟩ := Option.isSome_iff_exists.mp (Std.HashMap.mem_iff_isSome_getElem?.mp hkey)
  refine ⟨why, hwhy, ?_⟩
  rw [reason, hwhy]
  rfl

end Orderly

/-! ## Every task ends once -/

/-- A batch of different matches stands where the given ends lead, reasons included. -/
structure Accounts (f : FanOut) (pending : List PendingMatch) (es : List Ending) : Prop
    extends f.Tracks pending es where
  errors : ∀ (id : MatchId) (why : Error), f.errors[id]? = some why ↔
    ∃ e ∈ es, e.game.id = id ∧ e.outcome.result = .error why

section Accounts

variable {f : FanOut} {pending : List PendingMatch} {es : List Ending}

theorem accounts_start (hd : ((gamesOf pending).map Match.id).Nodup) :
    (start pending).Accounts pending [] where
  toTracks := tracks_start hd
  errors := fun id why => by simp [start]

theorem Accounts.resolve {m : Match} (h : f.Accounts pending es)
    (hd : ((gamesOf pending).map Match.id).Nodup) (hes : es.map Ending.game ⊆ gamesOf pending)
    (hm : m ∈ gamesOf pending) (hnew : m ∉ es.map Ending.game)
    (hrun : es.length < pending.length) (o : Outcome) :
    (f.resolve m.id o).1.Accounts pending (es ++ [⟨m, o⟩]) where
  toTracks := h.toTracks.resolve hd hm hnew hrun o
  errors := by
    intro id why
    have hw := h.waiting m hm hnew
    cases ho : o.result with
    | ok a =>
        rw [resolve_of_result_ok hw ho]
        simp [h.errors, ho]
    | error reason =>
        rw [resolve_of_result_error hw ho, Std.HashMap.getElem?_insert]
        by_cases hid : m.id = id
        · have hnone : ∀ e ∈ es, e.game.id ≠ id := by
            intro e he heq
            have hgame : e.game ∈ es.map Ending.game := List.mem_map_of_mem he
            exact hnew (List.inj_on_of_nodup_map hd hm (hes hgame) (hid.trans heq.symm) ▸ hgame)
          simp only [hid, beq_self_eq_true, if_true, Option.some.injEq, List.mem_append,
            List.mem_singleton]
          constructor
          · rintro rfl
            exact ⟨_, Or.inr rfl, hid, ho⟩
          · rintro ⟨e, he | rfl, heq, hwhy⟩
            · exact absurd heq (hnone e he)
            · rw [ho] at hwhy
              exact Except.error.inj hwhy
        · simp [hid, h.errors]

/-- Once every match's task has ended, the batch says what the ends say. -/
theorem Accounts.resolveAll (hd : ((gamesOf pending).map Match.id).Nodup) (more : List Ending)
    (h : f.Accounts pending es) (hp : ((es ++ more).map Ending.game).Perm (gamesOf pending)) :
    (f.resolveAll (more.map fun e => (e.game.id, e.outcome))).Accounts pending (es ++ more) := by
  induction more generalizing f es with
  | nil => rwa [List.append_nil]
  | cons e more ih =>
      have hnodup : ((es ++ e :: more).map Ending.game).Nodup := hp.nodup_iff.mpr hd.of_map
      have hlength := hp.length_eq
      rw [List.map_append, List.map_cons] at hnodup
      have hes : es.map Ending.game ⊆ gamesOf pending := by
        intro m hm
        refine hp.subset ?_
        rw [List.map_append]
        exact List.mem_append_left _ hm
      have hm : e.game ∈ gamesOf pending := hp.subset (by simp)
      have hnew : e.game ∉ es.map Ending.game := fun hmem =>
        (List.nodup_append.mp hnodup).2.2 _ hmem _ List.mem_cons_self rfl
      have hrun : es.length < pending.length := by
        simp only [List.length_map, List.length_append, List.length_cons, gamesOf] at hlength
        omega
      have hstep := h.resolve hd hes hm hnew hrun e.outcome
      have hsplit : es ++ e :: more = es ++ [e] ++ more := by
        rw [List.append_assoc, List.singleton_append]
      rw [hsplit] at hp ⊢
      exact ih hstep hp

theorem accounts_allocateAll (hd : ((gamesOf pending).map Match.id).Nodup)
    (hp : (es.map Ending.game).Perm (gamesOf pending)) :
    (allocateAll pending (es.map fun e => (e.game.id, e.outcome))).Accounts pending es :=
  (accounts_start hd).resolveAll hd es hp

end Accounts

theorem running_resolveAll (f : FanOut) (ends : List (MatchId × Outcome)) :
    (f.resolveAll ends).running = f.running - ends.length := by
  induction ends generalizing f with
  | nil => rfl
  | cons x xs ih =>
      have hrest := ih (f.resolve x.1 x.2).1
      rw [running_resolve] at hrest
      rw [List.length_cons, Nat.add_comm, ← Nat.sub_sub]
      exact hrest

end FanOut

/-! ## Listening to tasks -/

theorem Error.message_ne_empty (why : Error) : why.message ≠ "" := by
  have hopening (opening rest : String) (h : opening ≠ "") : opening ++ rest ≠ "" :=
    fun he => h (String.append_eq_empty_iff.mp he).1
  cases why <;> exact hopening _ _ (by decide)

theorem Answer.result_eq_ok_iff {answer : Answer} {task : String} {a : Assignment} :
    answer.result task = .ok a ↔ ∃ r, answer = .response r ∧ r.assignment = .ok a := by
  cases answer <;> simp [result]

namespace Errand

def ending (e : Errand) : Ending := ⟨e.game, e.report.outcome⟩

theorem result_outcome_report (e : Errand) :
    e.report.outcome.result = e.answer.result e.task := by
  unfold report
  cases e.answer with
  | response r => rfl
  | refusal why => rfl
  | breakdown message => cases message <;> rfl

end Errand

namespace Watch

section Listening

variable {w : Watch} {es order : List Errand}

theorem hear_report {e : Errand} (known : w.owners[e.task]? = some e.game.id) :
    w.hear e.report = { w with batch := (w.batch.resolve e.game.id e.report.outcome).1 } := by
  have howner : w.owner? e.report = some e.game.id := by
    unfold Errand.report
    cases e.answer with
    | response r => rfl
    | refusal why => rfl
    | breakdown message => exact known
  simp only [hear, howner]

/-- Listening stops when as many tasks have been heard of as ran. -/
theorem listen_reports (rest : List Report)
    (known : ∀ e ∈ order, w.owners[e.task]? = some e.game.id)
    (running : w.batch.running = order.length) :
    w.listen (order.map Errand.report ++ rest) =
      ({ w with batch := w.batch.resolveAll (order.map fun e => (e.game.id, e.report.outcome)) },
        rest) := by
  induction order generalizing w with
  | nil =>
      cases rest with
      | nil => rfl
      | cons r rs => exact if_pos running
  | cons e order ih =>
      have hrunning : w.batch.running ≠ 0 := by
        rw [running, List.length_cons]
        exact Nat.succ_ne_zero _
      rw [List.map_cons, List.cons_append, listen, if_neg hrunning,
        hear_report (known e List.mem_cons_self)]
      refine ih (fun d hd => known d (List.mem_cons_of_mem e hd)) ?_
      rw [FanOut.running_resolve, running, List.length_cons, Nat.add_sub_cancel]

/-- Names that differ lead every report back to its own match. -/
theorem allocateAll_reports (rest : List Report) (named : (es.map Errand.task).Nodup)
    (each : order.Perm es) :
    allocateAll es (order.map Errand.report ++ rest) =
      (.allocateAll (es.map Errand.pending) (order.map fun e => (e.game.id, e.report.outcome)),
        rest) := by
  have hknown : ∀ e ∈ order, (start es).owners[e.task]? = some e.game.id := fun e he =>
    (getElem?_foldl_insert Errand.task (fun e => e.game.id) named ∅).1 e (each.subset he)
  have hrunning : (start es).batch.running = order.length := by
    rw [each.length_eq]
    exact List.length_map _
  rw [allocateAll, listen_reports rest hknown hrunning]
  rfl

theorem accounts_allocateAll (rest : List Report) (named : (es.map Errand.task).Nodup)
    (each : order.Perm es) (distinct : (es.map fun e => e.game.id).Nodup) :
    (allocateAll es (order.map Errand.report ++ rest)).1.Accounts (es.map Errand.pending)
      (order.map Errand.ending) := by
  have hgames : gamesOf (es.map Errand.pending) = es.map Errand.game := List.map_map
  have hd : ((gamesOf (es.map Errand.pending)).map Match.id).Nodup := by
    rw [hgames, List.map_map]
    exact distinct
  have hp : ((order.map Errand.ending).map Ending.game).Perm (gamesOf (es.map Errand.pending)) := by
    rw [hgames, List.map_map]
    exact each.map _
  have haccounts := FanOut.accounts_allocateAll hd hp
  rw [allocateAll_reports rest named each]
  rwa [List.map_map] at haccounts

section Dealt

variable {f : FanOut}

theorem mem_allocated_iff (h : f.Accounts (es.map Errand.pending) (order.map Errand.ending))
    (each : order.Perm es) {m : Match} :
    m ∈ f.allocated ↔
      ∃ e ∈ es, ∃ r a, e.answer = .response r ∧ r.assignment = .ok a ∧ m = e.game.assign a := by
  rw [h.allocated, mem_placed_iff]
  constructor
  · rintro ⟨x, hx, a, ha, rfl⟩
    obtain ⟨e, he, rfl⟩ := List.mem_map.mp hx
    obtain ⟨r, hr, hra⟩ := Answer.result_eq_ok_iff.mp (e.result_outcome_report ▸ ha)
    exact ⟨e, each.subset he, r, a, hr, hra, rfl⟩
  · rintro ⟨e, he, r, a, hr, ha, rfl⟩
    refine ⟨e.ending, List.mem_map_of_mem (each.mem_iff.mpr he), a, ?_, rfl⟩
    exact e.result_outcome_report.trans (Answer.result_eq_ok_iff.mpr ⟨r, hr, ha⟩)

theorem mem_failed_iff (h : f.Accounts (es.map Errand.pending) (order.map Errand.ending))
    (each : order.Perm es) {m : Match} :
    m ∈ f.failed ↔ ∃ e ∈ es, (∃ why, e.answer.result e.task = .error why) ∧ m = e.game := by
  rw [h.failed, mem_unplaced_iff]
  constructor
  · rintro ⟨x, hx, why, hwhy, rfl⟩
    obtain ⟨e, he, rfl⟩ := List.mem_map.mp hx
    exact ⟨e, each.subset he, ⟨why, e.result_outcome_report ▸ hwhy⟩, rfl⟩
  · rintro ⟨e, he, ⟨why, hwhy⟩, rfl⟩
    exact ⟨e.ending, List.mem_map_of_mem (each.mem_iff.mpr he), why,
      e.result_outcome_report.trans hwhy, rfl⟩

theorem errors_eq_some_iff (h : f.Accounts (es.map Errand.pending) (order.map Errand.ending))
    (each : order.Perm es) {id : MatchId} {why : Error} :
    f.errors[id]? = some why ↔
      ∃ e ∈ es, e.game.id = id ∧ e.answer.result e.task = .error why := by
  rw [h.errors]
  constructor
  · rintro ⟨x, hx, hid, hwhy⟩
    obtain ⟨e, he, rfl⟩ := List.mem_map.mp hx
    exact ⟨e, each.subset he, hid, e.result_outcome_report ▸ hwhy⟩
  · rintro ⟨e, he, hid, hwhy⟩
    exact ⟨e.ending, List.mem_map_of_mem (each.mem_iff.mpr he), hid,
      e.result_outcome_report.trans hwhy⟩

end Dealt

/-- With tasks under different names, each heard of once and in any order, listening stops after
as many reports as there are tasks, where the ends of the tasks lead. No identifier is dealt with
twice, and reasons are kept for exactly the matches without a server. If the matches have different
identifiers, every match is dealt with once: it has a server if and only if the allocator's answer
for it makes an assignment, and is then changed in nothing else; otherwise it is unchanged, and the
reason kept and logged is that of its own task. Both lists are in the order in which the tasks were
heard of. -/
theorem allocateAll_deals_with_each_once {es order : List Errand} (rest : List Report)
    (named : (es.map Errand.task).Nodup) (each : order.Perm es) :
    let heard := order.map Errand.report
    let f := (allocateAll es (heard ++ rest)).1
    (heard.length = es.length ∧ (allocateAll es (heard ++ rest)).2 = rest ∧ f.running = 0) ∧
    f = .allocateAll (es.map Errand.pending) (order.map fun e => (e.game.id, e.report.outcome)) ∧
    ((f.allocated ++ f.failed).map Match.id).Nodup ∧
    (∀ id, id ∈ f.errors ↔ id ∈ f.failed.map Match.id) ∧
    ((es.map fun e => e.game.id).Nodup →
      ((f.allocated ++ f.failed).map Match.id).Perm (es.map fun e => e.game.id) ∧
      (∀ m, m ∈ f.allocated ↔
        ∃ e ∈ es, ∃ r a, e.answer = .response r ∧ r.assignment = .ok a ∧ m = e.game.assign a) ∧
      (∀ m, m ∈ f.failed ↔
        ∃ e ∈ es, (∃ why, e.answer.result e.task = .error why) ∧ m = e.game) ∧
      (∀ id why, f.errors[id]? = some why ↔
        ∃ e ∈ es, e.game.id = id ∧ e.answer.result e.task = .error why) ∧
      (∀ m ∈ f.failed, ∃ why, f.errors[m.id]? = some why ∧ f.reason m.id = why.message ∧
        why.message ≠ "") ∧
      (f.allocated.map Match.id).Sublist (order.map fun e => e.game.id) ∧
      f.failed.Sublist (order.map Errand.game)) := by
  intro heard f
  have hall : allocateAll es (heard ++ rest) = _ := allocateAll_reports rest named each
  have hf : f = _ := congrArg Prod.fst hall
  have horderly : f.Orderly := by
    rw [hf]
    exact (FanOut.orderly_start _).resolveAll _
  have hrunning : f.running = 0 := by
    rw [hf]
    refine (FanOut.running_resolveAll _ _).trans ?_
    simp [FanOut.start, each.length_eq]
  refine ⟨⟨by simp [heard, each.length_eq], by rw [hall], hrunning⟩, hf, horderly.nodup,
    horderly.errors_iff, fun distinct => ?_⟩
  have haccounts := accounts_allocateAll rest named each distinct
  have hendings : (order.map Errand.ending).map Ending.game = order.map Errand.game :=
    List.map_map
  refine ⟨?_, fun m => mem_allocated_iff haccounts each, fun m => mem_failed_iff haccounts each,
    fun id why => errors_eq_some_iff haccounts each, ?_, ?_, ?_⟩
  · rw [haccounts.allocated, haccounts.failed]
    refine (map_placed_append_unplaced_perm Match.id (fun _ _ => rfl) _).trans ?_
    rw [hendings, List.map_map]
    exact each.map _
  · intro m hm
    obtain ⟨why, hwhy, hreason⟩ := horderly.exists_reason hm
    exact ⟨why, hwhy, hreason, why.message_ne_empty⟩
  · have hsub := placed_ids_sublist (order.map Errand.ending)
    rw [hendings, List.map_map] at hsub
    rw [haccounts.allocated]
    exact hsub
  · rw [haccounts.failed, ← hendings]
    exact unplaced_sublist _

end Listening

/-! ## A batch in which one task breaks down -/

def trialErrand (number : BitVec 128) (task : String) (answer : Answer) : Errand where
  task
  pending := ⟨.new ⟨number⟩ "lobby", .forMatch "lobby" (.new ⟨number⟩ "lobby")⟩
  answer

def trialResponse : Response := ⟨some .allocated, "lobby-1", "10.0.0.1", [⟨"game", 25565⟩], .empty⟩

def trialAssignment : Assignment := ⟨"lobby-1", "10.0.0.1", 25565, none, none⟩

def trialErrands : List Errand := [
  trialErrand 1 "21" (.response trialResponse),
  trialErrand 2 "22" (.response { trialResponse with state := some .contention }),
  trialErrand 3 "23" (.breakdown (some "out of memory"))]

def trialOrder : List Errand := trialErrands.drop 2 ++ trialErrands.take 2

theorem trialOrder_perm : trialOrder.Perm trialErrands := List.perm_append_comm

theorem trialErrands_dealt_with :
    let f := (allocateAll trialErrands (trialOrder.map Errand.report ++ [])).1
    f.running = 0 ∧ (Match.new ⟨1⟩ "lobby").assign trialAssignment ∈ f.allocated ∧
      f.errors[(⟨2⟩ : MatchId)]? = some (.notAllocated .contention) ∧
      f.errors[(⟨3⟩ : MatchId)]? = some (.taskFailed (breakdownText "23" (some "out of memory"))) ∧
      f.failed.Sublist (trialOrder.map Errand.game) := by
  have named : (trialErrands.map Errand.task).Nodup := by decide
  have distinct : (trialErrands.map fun e => e.game.id).Nodup := by decide
  obtain ⟨⟨_, _, hrunning⟩, _, _, _, hdealt⟩ :=
    allocateAll_deals_with_each_once [] named trialOrder_perm
  obtain ⟨_, hallocated, _, herrors, _, _, hfailed⟩ := hdealt distinct
  have hfirst := List.mem_cons_self (a := trialErrands[0]) (l := trialErrands.tail)
  refine ⟨hrunning, (hallocated _).mpr ⟨_, hfirst, trialResponse, _, rfl, rfl, rfl⟩,
    (herrors _ _).mpr ⟨trialErrands[1], ?_, rfl, rfl⟩,
    (herrors _ _).mpr ⟨trialErrands[2], ?_, rfl, rfl⟩, hfailed⟩
  · exact List.getElem_mem _
  · exact List.getElem_mem _

end Watch

end Matchmaking.Allocation
