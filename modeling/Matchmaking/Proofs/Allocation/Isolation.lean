import Matchmaking.Proofs.Allocation.Watch

/-!
# A match depends on its own task alone

What becomes of a match is the same in any two runs of its batch in which its own task gets the same
answer, whatever the other tasks get, whatever names the tasks run under, and in whatever order they
are heard of.
-/

namespace Matchmaking.Allocation

/-- Errors that differ in nothing but the name of the task that broke down. -/
inductive Error.Alike : Error → Error → Prop
  | same (why : Error) : Alike why why
  | renamed (task other : String) (message : Option String) :
      Alike (.taskFailed (breakdownText task message)) (.taskFailed (breakdownText other message))

theorem Answer.alike_of_result {answer : Answer} {task : String} {why : Error}
    (h : answer.result task = .error why) (other : String) :
    ∃ reason, answer.result other = .error reason ∧ why.Alike reason := by
  cases answer with
  | response r => exact ⟨why, h, .same why⟩
  | refusal reason => exact ⟨why, h, .same why⟩
  | breakdown message =>
      obtain rfl := Except.error.inj h
      exact ⟨_, rfl, .renamed task other message⟩

namespace FanOut

/-- A match is listed with a server, and not among those without one. -/
def Places (f : FanOut) (m : Match) (a : Assignment) : Prop :=
  m.assign a ∈ f.allocated ∧ m.id ∉ f.failed.map Match.id

/-- A match is listed without a server for a reason, and not among those with one. -/
def GivesUp (f : FanOut) (m : Match) (why : Error) : Prop :=
  m ∈ f.failed ∧ m.id ∉ f.allocated.map Match.id ∧ f.errors[m.id]? = some why

/-- Two batches say the same of a match. -/
def Concurs (f g : FanOut) (m : Match) : Prop :=
  (∃ a, f.Places m a ∧ g.Places m a) ∨
    ∃ why reason, f.GivesUp m why ∧ g.GivesUp m reason ∧ why.Alike reason

theorem Orderly.disjoint_ids {f : FanOut} (h : f.Orderly) :
    (f.allocated.map Match.id).Disjoint (f.failed.map Match.id) := by
  have hnodup := h.nodup
  rw [List.map_append] at hnodup
  exact List.disjoint_of_nodup_append hnodup

end FanOut

def errandsOf (batch : List PendingMatch) (name : MatchId → String) (answer : MatchId → Answer) :
    List Errand :=
  batch.map fun p => ⟨name p.game.id, p, answer p.game.id⟩

/-- A run of a batch: the name under which the task of each match runs, what each task gets, and the
order in which the tasks are heard of. -/
structure Run (batch : List PendingMatch) where
  name : MatchId → String
  answer : MatchId → Answer
  order : List Errand
  named : (batch.map fun p => name p.game.id).Nodup
  each : order.Perm (errandsOf batch name answer)

namespace Run

variable {batch : List PendingMatch} (r s : Run batch)

def errands : List Errand := errandsOf batch r.name r.answer

def outcome : FanOut := (Watch.allocateAll r.errands (r.order.map Errand.report)).1

theorem named_errands : (r.errands.map Errand.task).Nodup := by
  have hnames : r.errands.map Errand.task = batch.map fun p => r.name p.game.id := List.map_map
  rw [hnames]
  exact r.named

theorem outcome_eq : r.outcome = .allocateAll (r.errands.map Errand.pending)
    (r.order.map fun e => (e.game.id, e.report.outcome)) := by
  have hreports := Watch.allocateAll_reports [] r.named_errands r.each
  rw [List.append_nil] at hreports
  exact congrArg Prod.fst hreports

theorem orderly_outcome : r.outcome.Orderly := by
  rw [outcome_eq]
  exact (FanOut.orderly_start _).resolveAll _

section Distinct

variable (distinct : ((gamesOf batch).map Match.id).Nodup)

include distinct

theorem accounts_outcome :
    r.outcome.Accounts (r.errands.map Errand.pending) (r.order.map Errand.ending) := by
  have hids : (r.errands.map fun e => e.game.id).Nodup := by
    simpa only [errands, errandsOf, gamesOf, List.map_map] using! distinct
  have haccounts := Watch.accounts_allocateAll [] r.named_errands r.each hids
  rwa [List.append_nil] at haccounts

theorem mem_allocated_iff {m : Match} :
    m ∈ r.outcome.allocated ↔ ∃ n ∈ gamesOf batch, ∃ a,
      (r.answer n.id).result (r.name n.id) = .ok a ∧ m = n.assign a := by
  rw [Watch.mem_allocated_iff (r.accounts_outcome distinct) r.each]
  simp only [Answer.result_eq_ok_iff]
  constructor
  · rintro ⟨e, he, x, a, hx, ha, rfl⟩
    obtain ⟨p, hp, rfl⟩ := List.mem_map.mp he
    exact ⟨p.game, List.mem_map_of_mem hp, a, ⟨x, hx, ha⟩, rfl⟩
  · rintro ⟨n, hn, a, ⟨x, hx, ha⟩, rfl⟩
    obtain ⟨p, hp, rfl⟩ := List.mem_map.mp hn
    exact ⟨_, List.mem_map_of_mem hp, x, a, hx, ha, rfl⟩

theorem mem_failed_iff {m : Match} :
    m ∈ r.outcome.failed ↔ m ∈ gamesOf batch ∧
      ∃ why, (r.answer m.id).result (r.name m.id) = .error why := by
  rw [Watch.mem_failed_iff (r.accounts_outcome distinct) r.each]
  constructor
  · rintro ⟨e, he, hwhy, rfl⟩
    obtain ⟨p, hp, rfl⟩ := List.mem_map.mp he
    exact ⟨List.mem_map_of_mem hp, hwhy⟩
  · rintro ⟨hm, hwhy⟩
    obtain ⟨p, hp, rfl⟩ := List.mem_map.mp hm
    exact ⟨_, List.mem_map_of_mem hp, hwhy, rfl⟩

theorem errors_eq_some_iff {id : MatchId} {why : Error} :
    r.outcome.errors[id]? = some why ↔
      id ∈ (gamesOf batch).map Match.id ∧ (r.answer id).result (r.name id) = .error why := by
  rw [Watch.errors_eq_some_iff (r.accounts_outcome distinct) r.each]
  constructor
  · rintro ⟨e, he, rfl, hwhy⟩
    obtain ⟨p, hp, rfl⟩ := List.mem_map.mp he
    exact ⟨List.mem_map_of_mem (List.mem_map_of_mem hp), hwhy⟩
  · rintro ⟨hid, hwhy⟩
    obtain ⟨m, hm, rfl⟩ := List.mem_map.mp hid
    obtain ⟨p, hp, rfl⟩ := List.mem_map.mp hm
    exact ⟨_, List.mem_map_of_mem hp, rfl, hwhy⟩

theorem concurs_of_answer_eq {m : Match} (hm : m ∈ gamesOf batch)
    (h : r.answer m.id = s.answer m.id) : r.outcome.Concurs s.outcome m := by
  have hr := r.orderly_outcome.disjoint_ids
  have hs := s.orderly_outcome.disjoint_ids
  cases hres : (r.answer m.id).result (r.name m.id) with
  | ok a =>
      obtain ⟨x, hx, ha⟩ := Answer.result_eq_ok_iff.mp hres
      have hother : (s.answer m.id).result (s.name m.id) = .ok a :=
        Answer.result_eq_ok_iff.mpr ⟨x, h ▸ hx, ha⟩
      have hleft := (r.mem_allocated_iff distinct).mpr ⟨m, hm, a, hres, rfl⟩
      have hright := (s.mem_allocated_iff distinct).mpr ⟨m, hm, a, hother, rfl⟩
      have hrid := List.mem_map_of_mem (f := Match.id) hleft
      have hsid := List.mem_map_of_mem (f := Match.id) hright
      exact Or.inl ⟨a, ⟨hleft, fun hid => hr hrid hid⟩, ⟨hright, fun hid => hs hsid hid⟩⟩
  | error why =>
      obtain ⟨reason, hother, halike⟩ := Answer.alike_of_result hres (s.name m.id)
      rw [h] at hother
      have hid : m.id ∈ (gamesOf batch).map Match.id := List.mem_map_of_mem hm
      have hleft := (r.mem_failed_iff distinct).mpr ⟨hm, why, hres⟩
      have hright := (s.mem_failed_iff distinct).mpr ⟨hm, reason, hother⟩
      refine Or.inr ⟨why, reason, ⟨hleft, fun hid => hr hid (List.mem_map_of_mem hleft), ?_⟩,
        ⟨hright, fun hid => hs hid (List.mem_map_of_mem hright), ?_⟩, halike⟩
      · exact (r.errors_eq_some_iff distinct).mpr ⟨hid, hres⟩
      · exact (s.errors_eq_some_iff distinct).mpr ⟨hid, hother⟩

section Agree

variable {r s} (agree : ∀ m ∈ gamesOf batch, r.answer m.id = s.answer m.id)

include agree

theorem allocated_subset : r.outcome.allocated ⊆ s.outcome.allocated := by
  intro m hm
  obtain ⟨n, hn, a, ha, rfl⟩ := (r.mem_allocated_iff distinct).mp hm
  obtain ⟨x, hx, hxa⟩ := Answer.result_eq_ok_iff.mp ha
  rw [agree n hn] at hx
  exact (s.mem_allocated_iff distinct).mpr
    ⟨n, hn, a, Answer.result_eq_ok_iff.mpr ⟨x, hx, hxa⟩, rfl⟩

theorem failed_subset : r.outcome.failed ⊆ s.outcome.failed := by
  intro m hm
  obtain ⟨hgame, why, hwhy⟩ := (r.mem_failed_iff distinct).mp hm
  obtain ⟨reason, hreason, _⟩ := Answer.alike_of_result hwhy (s.name m.id)
  rw [agree m hgame] at hreason
  exact (s.mem_failed_iff distinct).mpr ⟨hgame, reason, hreason⟩

theorem errors_alike {id : MatchId} {why : Error} (h : r.outcome.errors[id]? = some why) :
    ∃ reason, s.outcome.errors[id]? = some reason ∧ why.Alike reason := by
  obtain ⟨hid, hwhy⟩ := (r.errors_eq_some_iff distinct).mp h
  obtain ⟨m, hm, rfl⟩ := List.mem_map.mp hid
  obtain ⟨reason, hreason, halike⟩ := Answer.alike_of_result hwhy (s.name m.id)
  rw [agree m hm] at hreason
  exact ⟨reason, (s.errors_eq_some_iff distinct).mpr ⟨hid, hreason⟩, halike⟩

theorem errors_rel (id : MatchId) :
    Option.Rel Error.Alike r.outcome.errors[id]? s.outcome.errors[id]? := by
  have agree' : ∀ m ∈ gamesOf batch, s.answer m.id = r.answer m.id := fun m hm => (agree m hm).symm
  cases hr : r.outcome.errors[id]? with
  | some why =>
      obtain ⟨reason, hs, halike⟩ := errors_alike distinct agree hr
      rw [hs]
      exact .some halike
  | none =>
      cases hs : s.outcome.errors[id]? with
      | none => exact .none
      | some reason =>
          obtain ⟨why, hwhy, _⟩ := errors_alike distinct agree' hs
          rw [hr] at hwhy
          cases hwhy

theorem errors_eq_of_name_eq (names : ∀ m ∈ gamesOf batch, r.name m.id = s.name m.id)
    (id : MatchId) : r.outcome.errors[id]? = s.outcome.errors[id]? := by
  ext why
  rw [r.errors_eq_some_iff distinct, s.errors_eq_some_iff distinct]
  refine and_congr_right fun hid => ?_
  obtain ⟨m, hm, rfl⟩ := List.mem_map.mp hid
  rw [agree m hm, names m hm]

end Agree

end Distinct

end Run

/-- In any two runs of a batch of different matches, a match whose own task gets the same answer in
both ends in the same list, with the same server or for the same reason, whatever the tasks of other
matches get and in whatever order the tasks are heard of. If every task gets the same answer in
both, the two runs list the same matches and keep the same reasons; these differ in nothing but the
names of tasks that broke down, and not at all if the tasks run under the same names. -/
theorem runs_concur {batch : List PendingMatch} (distinct : ((gamesOf batch).map Match.id).Nodup)
    (r s : Run batch) (others : Set MatchId)
    (agree : ∀ m ∈ gamesOf batch, m.id ∉ others → r.answer m.id = s.answer m.id) :
    (∀ m ∈ gamesOf batch, m.id ∉ others → r.outcome.Concurs s.outcome m) ∧
    ((∀ m ∈ gamesOf batch, r.answer m.id = s.answer m.id) →
      r.outcome.allocated.Perm s.outcome.allocated ∧ r.outcome.failed.Perm s.outcome.failed ∧
      (∀ id : MatchId, Option.Rel Error.Alike r.outcome.errors[id]? s.outcome.errors[id]?) ∧
      ((∀ m ∈ gamesOf batch, r.name m.id = s.name m.id) →
        ∀ id : MatchId, r.outcome.errors[id]? = s.outcome.errors[id]?)) := by
  refine ⟨fun m hm hout => r.concurs_of_answer_eq s distinct hm (agree m hm hout), fun same => ?_⟩
  have same' : ∀ m ∈ gamesOf batch, s.answer m.id = r.answer m.id := fun m hm => (same m hm).symm
  have hr := r.orderly_outcome.nodup.of_map
  have hs := s.orderly_outcome.nodup.of_map
  refine ⟨?_, ?_, Run.errors_rel distinct same, Run.errors_eq_of_name_eq distinct same⟩
  · rw [List.perm_ext_iff_of_nodup hr.of_append_left hs.of_append_left]
    exact fun m => ⟨fun hm => Run.allocated_subset distinct same hm,
      fun hm => Run.allocated_subset distinct same' hm⟩
  · rw [List.perm_ext_iff_of_nodup hr.of_append_right hs.of_append_right]
    exact fun m => ⟨fun hm => Run.failed_subset distinct same hm,
      fun hm => Run.failed_subset distinct same' hm⟩

/-! ## Two runs that differ in one answer -/

def trialPending : List PendingMatch := Watch.trialErrands.map Errand.pending

def trialName (id : MatchId) : String := toString id.value.toNat

def trialAnswer (id : MatchId) : Answer :=
  if id = ⟨3⟩ then .breakdown none else .response Watch.trialResponse

def trialRun : Run trialPending where
  name := trialName
  answer := trialAnswer
  order := (errandsOf trialPending trialName trialAnswer).reverse
  named := by decide
  each := List.reverse_perm _

def trialRerun : Run trialPending where
  name := fun id => "rerun " ++ trialName id
  answer := fun _ => .response Watch.trialResponse
  order := errandsOf trialPending _ _
  named := by decide
  each := .refl _

theorem trialRun_concurs :
    trialRun.answer ⟨3⟩ ≠ trialRerun.answer ⟨3⟩ ∧
      trialRun.outcome.Concurs trialRerun.outcome (.new ⟨2⟩ "lobby") := by
  have distinct : ((gamesOf trialPending).map Match.id).Nodup := by decide
  have agree : ∀ m ∈ gamesOf trialPending, m.id ∉ ({⟨3⟩} : Set MatchId) →
      trialRun.answer m.id = trialRerun.answer m.id := fun m _ hid => if_neg hid
  have hgame : Match.new ⟨2⟩ "lobby" ∈ gamesOf trialPending := by decide
  have hother : (⟨2⟩ : MatchId) ≠ ⟨3⟩ := by decide
  exact ⟨by decide, (runs_concur distinct trialRun trialRerun {⟨3⟩} agree).1 _ hgame hother⟩

end Matchmaking.Allocation
