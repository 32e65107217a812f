import Matchmaking.Config.Load
import Matchmaking.Proofs.Net.SocketAddress
import Matchmaking.Proofs.Text.Blank
import Matchmaking.Proofs.Text.Numeral

/-!
# Which variables make a configuration

Variables make a configuration just if every check on them passes. Otherwise the first check that
fails, in a fixed order, is the one reported.
-/

namespace Matchmaking

theorem FailurePolicy.name_injective {p q : FailurePolicy} (h : p.name = q.name) : p = q := by
  cases p with
  | drop =>
      cases q with
      | drop => rfl
      | requeue => exact absurd h (by decide)
  | requeue =>
      cases q with
      | drop => exact absurd h (by decide)
      | requeue => rfl

namespace Config

open Text Net Number

variable {α β : Type} {lookup : String → Option String} {name v w : String}

/-! ## Variables -/

/-- A variable is set to more than blanks. -/
def IsSet (lookup : String → Option String) (name v : String) : Prop :=
  lookup name = some v ∧ ∃ c ∈ v.toList, isBlank c = false

/-- A variable is not set, or to blanks only. -/
def IsUnset (lookup : String → Option String) (name : String) : Prop :=
  ∀ v, lookup name = some v → ∀ c ∈ v.toList, isBlank c = true

/-- What a variable gives: what its value denotes, or a default. -/
inductive Gives (lookup : String → Option String) (name : String) (Denotes : String → α → Prop)
    (default : α) : α → Prop where
  | unset (unset : IsUnset lookup name) : Gives lookup name Denotes default default
  | set {v : String} {a : α} (set : IsSet lookup name v) (denotes : Denotes v a) :
      Gives lookup name Denotes default a

/-- A variable is set to something that denotes nothing. -/
def Bad (lookup : String → Option String) (name : String) (Denotes : String → α → Prop) : Prop :=
  ∃ v, IsSet lookup name v ∧ ∀ a, ¬Denotes v a

theorem setting?_eq_some_iff : setting? lookup name = some v ↔ IsSet lookup name v := by
  rw [setting?, Option.filter_eq_some_iff, IsSet]
  simp [isBlankText]

theorem setting?_eq_none_iff : setting? lookup name = none ↔ IsUnset lookup name := by
  rw [setting?, Option.filter_eq_none_iff, IsUnset]
  simp [isBlankText]

theorem IsSet.eq (h : IsSet lookup name v) (h' : IsSet lookup name w) : v = w :=
  Option.some.inj (h.1.symm.trans h'.1)

theorem IsSet.not_isUnset (h : IsSet lookup name v) : ¬IsUnset lookup name := by
  intro hunset
  rw [← setting?_eq_none_iff, setting?_eq_some_iff.mpr h] at hunset
  cases hunset

/-- More than blanks is left without the blanks around it. -/
theorem IsSet.trimmed_ne_nil (h : IsSet lookup name v) : trimChars v.toList ≠ [] := by
  intro hnil
  obtain ⟨c, hc, hblank⟩ := h.2
  rw [trimChars_eq_nil_iff.mp hnil c hc] at hblank
  cases hblank

section Gives

variable {Denotes : String → α → Prop} {default a b : α}

theorem Gives.not_bad (h : Gives lookup name Denotes default a) : ¬Bad lookup name Denotes := by
  intro hbad
  obtain ⟨v, hset, hnone⟩ := hbad
  cases h with
  | unset unset => exact hset.not_isUnset unset
  | set set denotes =>
      rw [← hset.eq set] at denotes
      exact hnone a denotes

theorem Gives.eq (h : Gives lookup name Denotes default a)
    (h' : Gives lookup name Denotes default b)
    (functional : ∀ v a b, Denotes v a → Denotes v b → a = b) : a = b := by
  cases h with
  | unset unset =>
      cases h' with
      | unset => rfl
      | set set => exact absurd unset set.not_isUnset
  | set set denotes =>
      cases h' with
      | unset unset => exact absurd unset set.not_isUnset
      | set set' denotes' =>
          rw [← set.eq set'] at denotes'
          exact functional _ a b denotes denotes'

theorem Gives.map {Denotes' : String → β → Prop} (f : α → β)
    (compat : ∀ v a, Denotes v a → Denotes' v (f a)) (h : Gives lookup name Denotes default a) :
    Gives lookup name Denotes' (f default) (f a) := by
  cases h with
  | unset unset => exact .unset unset
  | set set denotes => exact .set set (compat _ a denotes)

end Gives

theorem gives_getD (lookup : String → Option String) (name default : String) :
    Gives lookup name Eq default ((setting? lookup name).getD default) := by
  cases hsetting : setting? lookup name with
  | none => exact .unset (setting?_eq_none_iff.mp hsetting)
  | some v => exact .set (setting?_eq_some_iff.mp hsetting) rfl

theorem gives_setting? (lookup : String → Option String) (name : String) :
    Gives lookup name (fun v u => u = some v) none (setting? lookup name) := by
  cases hsetting : setting? lookup name with
  | none => exact .unset (setting?_eq_none_iff.mp hsetting)
  | some v => exact .set (setting?_eq_some_iff.mp hsetting) rfl

theorem isBlankText_getD {default : String} (h : isBlankText default = false) :
    isBlankText ((setting? lookup name).getD default) = false := by
  cases hsetting : setting? lookup name with
  | none => exact h
  | some v =>
      obtain ⟨c, hc, hblank⟩ := (setting?_eq_some_iff.mp hsetting).2
      rw [Option.getD_some, isBlankText, List.all_eq_false]
      exact ⟨c, hc, by simp [hblank]⟩

/-! ## What the values of variables denote -/

/-- A number of 64 bits in decimal, with or without a plus sign, blanks around it aside. -/
def DenotesNumber (v : String) (n : Nat) : Prop :=
  ∃ mid, IsTrimmed v.toList mid ∧ IsDecimal n mid ∧ n ≤ mostUnsigned64

/-- Why a text does not denote a number. -/
def Misspells (v : String) (why : NumeralError) : Prop :=
  ∃ mid, IsTrimmed v.toList mid ∧ Misread mostUnsigned64 mid why

def DenotesMillis (v : String) (d : Duration) : Prop :=
  ∃ n, DenotesNumber v n ∧ d = .ofMillis n

/-- The name of a policy in ASCII letters of any case, blanks around it aside. -/
def DenotesPolicy (v : String) (p : FailurePolicy) : Prop :=
  ∃ mid, IsTrimmed v.toList mid ∧ mid.map Char.toLower = p.name.toList

/-- An address with a port, without blanks around it. -/
def DenotesAddress (v : String) (a : SocketAddress) : Prop := SocketAddress.IsText a v.toList

theorem denotesNumber_iff {n : Nat} :
    DenotesNumber v n ↔ readNat mostUnsigned64 (trimChars v.toList) = .ok n := by
  rw [readNat_eq_ok_iff]
  constructor
  · intro h
    obtain ⟨mid, htrimmed, hdecimal⟩ := h
    rwa [trimChars_of_isTrimmed htrimmed]
  · intro h
    exact ⟨_, isTrimmed_trimChars _, h⟩

theorem misspells_iff {why : NumeralError} (set : IsSet lookup name v) :
    Misspells v why ↔ readNat mostUnsigned64 (trimChars v.toList) = .error why := by
  rw [readNat_eq_error_iff set.trimmed_ne_nil]
  constructor
  · intro h
    obtain ⟨mid, htrimmed, hmisread⟩ := h
    rwa [trimChars_of_isTrimmed htrimmed]
  · intro h
    exact ⟨_, isTrimmed_trimChars _, h⟩

theorem denotesPolicy_iff {p : FailurePolicy} :
    DenotesPolicy v p ↔ FailurePolicy.normalise v = p.name := by
  rw [FailurePolicy.normalise, ← String.toList_inj, String.toList_ofList]
  constructor
  · intro h
    obtain ⟨mid, htrimmed, hname⟩ := h
    rwa [trimChars_of_isTrimmed htrimmed]
  · intro h
    exact ⟨_, isTrimmed_trimChars _, h⟩

theorem DenotesAddress.eq {a b : SocketAddress} (h : DenotesAddress v a)
    (h' : DenotesAddress v b) : a = b := by
  rw [DenotesAddress, ← SocketAddress.parse?_eq_some_iff] at h h'
  exact Option.some.inj (h.symm.trans h')

theorem DenotesNumber.eq {m n : Nat} (h : DenotesNumber v m) (h' : DenotesNumber v n) : m = n := by
  rw [denotesNumber_iff] at h h'
  exact Except.ok.inj (h.symm.trans h')

theorem DenotesMillis.eq {d e : Duration} (h : DenotesMillis v d) (h' : DenotesMillis v e) :
    d = e := by
  obtain ⟨m, hm, rfl⟩ := h
  obtain ⟨n, hn, rfl⟩ := h'
  rw [hm.eq hn]

theorem DenotesPolicy.eq {p q : FailurePolicy} (h : DenotesPolicy v p) (h' : DenotesPolicy v q) :
    p = q := by
  rw [denotesPolicy_iff] at h h'
  exact FailurePolicy.name_injective (h.symm.trans h')

/-! ## Readers of single variables -/

/-- A variable denotes what it gives, or it is bad for a reason that is reported. -/
theorem readNumber_cases (lookup : String → Option String) (name : String) (default : Nat) :
    (∃ n, readNumber lookup name default = .ok n ∧ Gives lookup name DenotesNumber default n) ∨
    ∃ v why, readNumber lookup name default = .error (.number name why) ∧
      IsSet lookup name v ∧ Misspells v why ∧ ∀ n, ¬DenotesNumber v n := by
  unfold readNumber
  cases hsetting : setting? lookup name with
  | none => exact Or.inl ⟨default, rfl, .unset (setting?_eq_none_iff.mp hsetting)⟩
  | some v =>
      have hset := setting?_eq_some_iff.mp hsetting
      cases hread : readNat mostUnsigned64 (trimChars v.toList) with
      | ok n =>
          refine Or.inl ⟨n, ?_, .set hset (denotesNumber_iff.mpr hread)⟩
          simp [hread]
      | error why =>
          refine Or.inr ⟨v, why, ?_, hset, (misspells_iff hset).mpr hread, ?_⟩
          · simp [hread]
          · intro n hn
            rw [denotesNumber_iff, hread] at hn
            cases hn

theorem readListenAddress_cases (lookup : String → Option String) :
    (∃ a, readListenAddress lookup = .ok a ∧
      Gives lookup "MATCHMAKER_LISTEN_ADDR" DenotesAddress (.v4 [127, 0, 0, 1] 8080) a) ∨
    readListenAddress lookup = .error .listenAddress ∧
      Bad lookup "MATCHMAKER_LISTEN_ADDR" DenotesAddress := by
  have hdefault : SocketAddress.parse? "127.0.0.1:8080" = some (.v4 [127, 0, 0, 1] 8080) := by
    decide
  unfold readListenAddress
  cases hsetting : setting? lookup "MATCHMAKER_LISTEN_ADDR" with
  | none =>
      refine Or.inl ⟨_, ?_, .unset (setting?_eq_none_iff.mp hsetting)⟩
      simp [hdefault]
  | some v =>
      have hset := setting?_eq_some_iff.mp hsetting
      cases hparse : SocketAddress.parse? v with
      | some a =>
          refine Or.inl ⟨a, ?_, .set hset (SocketAddress.parse?_eq_some_iff.mp hparse)⟩
          simp [hparse]
      | none =>
          refine Or.inr ⟨?_, v, hset, ?_⟩
          · simp [hparse]
          · intro a ha
            rw [DenotesAddress, ← SocketAddress.parse?_eq_some_iff, hparse] at ha
            cases ha

theorem readPolicy_cases (lookup : String → Option String) :
    (∃ p, readPolicy lookup = .ok p ∧
      Gives lookup "MATCHMAKER_FAILURE_POLICY" DenotesPolicy .drop p) ∨
    ∃ v, readPolicy lookup = .error (.policy ⟨FailurePolicy.normalise v⟩) ∧
      IsSet lookup "MATCHMAKER_FAILURE_POLICY" v ∧ ∀ p, ¬DenotesPolicy v p := by
  unfold readPolicy
  cases hsetting : setting? lookup "MATCHMAKER_FAILURE_POLICY" with
  | none => exact Or.inl ⟨_, rfl, .unset (setting?_eq_none_iff.mp hsetting)⟩
  | some v =>
      have hset := setting?_eq_some_iff.mp hsetting
      by_cases hdrop : FailurePolicy.normalise v = "drop"
      · have hparse : FailurePolicy.parse v = .ok .drop := if_pos hdrop
        simp only [hparse]
        exact Or.inl ⟨.drop, rfl, .set hset (denotesPolicy_iff.mpr hdrop)⟩
      by_cases hrequeue : FailurePolicy.normalise v = "requeue"
      · have hparse : FailurePolicy.parse v = .ok .requeue := by
          simp only [FailurePolicy.parse, if_neg hdrop, if_pos hrequeue]
        simp only [hparse]
        exact Or.inl ⟨.requeue, rfl, .set hset (denotesPolicy_iff.mpr hrequeue)⟩
      · have hparse : FailurePolicy.parse v = .error ⟨FailurePolicy.normalise v⟩ := by
          simp only [FailurePolicy.parse, if_neg hdrop, if_neg hrequeue]
        simp only [hparse]
        refine Or.inr ⟨v, rfl, hset, ?_⟩
        intro p hp
        rw [denotesPolicy_iff] at hp
        cases p with
        | drop => exact hdrop hp
        | requeue => exact hrequeue hp

/-! ## Checks -/

/-- What is checked of variables. -/
inductive Check where
  /-- The address to listen on is one. -/
  | address
  /-- A variable holds a number. -/
  | number (name : String)
  /-- The failure policy is one. -/
  | policy
  /-- The number in a variable is not zero. -/
  | positive (name : String) (why : SettingsError)
  deriving DecidableEq

namespace Check

/-- When a check fails. -/
def Fails (lookup : String → Option String) : Check → Prop
  | address => Bad lookup "MATCHMAKER_LISTEN_ADDR" DenotesAddress
  | number name => Bad lookup name DenotesNumber
  | policy => Bad lookup "MATCHMAKER_FAILURE_POLICY" DenotesPolicy
  | positive name _ => ∃ v, IsSet lookup name v ∧ DenotesNumber v 0

/-- The error that a check reports if it fails. -/
inductive Reports (lookup : String → Option String) : Check → ConfigError → Prop where
  | address : Reports lookup .address .listenAddress
  | number {name v : String} {why : NumeralError} (set : IsSet lookup name v)
      (misspells : Misspells v why) : Reports lookup (.number name) (.number name why)
  | policy {v : String} {mid : List Char} (set : IsSet lookup "MATCHMAKER_FAILURE_POLICY" v)
      (trimmed : IsTrimmed v.toList mid) :
      Reports lookup .policy (.policy ⟨String.ofList (mid.map Char.toLower)⟩)
  | positive {name : String} {why : SettingsError} :
      Reports lookup (.positive name why) (.settings why)

/-- The first of several checks that fails. -/
inductive FailsFirst (lookup : String → Option String) : List Check → Check → Prop where
  | head {k : Check} {ks : List Check} (fails : k.Fails lookup) : FailsFirst lookup (k :: ks) k
  | tail {j k : Check} {ks : List Check} (passes : ¬j.Fails lookup)
      (rest : FailsFirst lookup ks k) : FailsFirst lookup (j :: ks) k

variable {k l : Check} {ks : List Check} {e f : ConfigError}

theorem Reports.eq (h : Reports lookup k e) (h' : Reports lookup k f) : e = f := by
  cases h with
  | address =>
      cases h'
      rfl
  | number set misspells =>
      cases h' with
      | number set' misspells' =>
          rw [← set.eq set', misspells_iff set] at misspells'
          rw [misspells_iff set, misspells'] at misspells
          rw [Except.error.inj misspells]
  | policy set trimmed =>
      cases h' with
      | policy set' trimmed' =>
          rw [← set.eq set'] at trimmed'
          rw [← trimChars_of_isTrimmed trimmed, ← trimChars_of_isTrimmed trimmed']
  | positive =>
      cases h'
      rfl

theorem FailsFirst.eq (h : FailsFirst lookup ks k) (h' : FailsFirst lookup ks l) : k = l := by
  induction h with
  | head fails =>
      cases h' with
      | head => rfl
      | tail passes => exact absurd fails passes
  | tail passes rest ih =>
      cases h' with
      | head fails => exact absurd fails passes
      | tail _ rest' => exact ih rest'

theorem FailsFirst.exists_fails (h : FailsFirst lookup ks k) : ∃ j ∈ ks, j.Fails lookup := by
  induction h with
  | head fails => exact ⟨_, List.mem_cons_self, fails⟩
  | tail _ _ ih =>
      obtain ⟨j, hj, hfails⟩ := ih
      exact ⟨j, List.mem_cons_of_mem _ hj, hfails⟩

theorem FailsFirst.append_right {js : List Check} (h : FailsFirst lookup ks k) :
    FailsFirst lookup (ks ++ js) k := by
  induction h with
  | head fails => exact .head fails
  | tail passes _ ih => exact .tail passes ih

theorem FailsFirst.append_left {js : List Check} (hpass : ∀ j ∈ js, ¬j.Fails lookup)
    (h : FailsFirst lookup ks k) : FailsFirst lookup (js ++ ks) k := by
  induction js with
  | nil => exact h
  | cons j js ih =>
      rw [List.forall_mem_cons] at hpass
      exact .tail hpass.1 (ih hpass.2)

def ofSettings : List Check :=
  [.number "MATCHMAKER_TICK_RATE_MS", .number "MATCHMAKER_PLAYERS_PER_MATCH", .policy,
    .positive "MATCHMAKER_PLAYERS_PER_MATCH" .noPlayers,
    .positive "MATCHMAKER_TICK_RATE_MS" .noTickRate]

/-- The checks in the order in which they are made. -/
def order : List Check := .address :: ofSettings ++ [.number "MATCHMAKER_ALLOCATOR_TIMEOUT_MS"]

end Check

/-! ## Settings -/

structure MakesSettings (lookup : String → Option String) (s : Settings) : Prop where
  fleet : Gives lookup "MATCHMAKER_FLEET_NAME" Eq "lobby" s.fleet
  gameMode : Gives lookup "MATCHMAKER_GAME_MODE_ID" Eq "lobby" s.gameMode
  tickRate : Gives lookup "MATCHMAKER_TICK_RATE_MS" DenotesMillis (.ofMillis 1000) s.tickRate
  playersPerMatch : Gives lookup "MATCHMAKER_PLAYERS_PER_MATCH" DenotesNumber 50 s.playersPerMatch
  failurePolicy : Gives lookup "MATCHMAKER_FAILURE_POLICY" DenotesPolicy .drop s.failurePolicy

theorem MakesSettings.eq {s t : Settings} (h : MakesSettings lookup s)
    (h' : MakesSettings lookup t) : s = t := by
  have hraw : ∀ v a b : String, v = a → v = b → a = b := by
    intro v a b ha hb
    exact ha.symm.trans hb
  have hfleet := h.fleet.eq h'.fleet hraw
  have hmode := h.gameMode.eq h'.gameMode hraw
  have hrate := h.tickRate.eq h'.tickRate fun _ _ _ => DenotesMillis.eq
  have hplayers := h.playersPerMatch.eq h'.playersPerMatch fun _ _ _ => DenotesNumber.eq
  have hpolicy := h.failurePolicy.eq h'.failurePolicy fun _ _ _ => DenotesPolicy.eq
  cases s
  cases t
  simp_all

theorem Gives.positive_fails_iff {default n : Nat}
    (h : Gives lookup name DenotesNumber default n) (hdefault : default ≠ 0) (why : SettingsError) :
    (Check.positive name why).Fails lookup ↔ n = 0 := by
  constructor
  · intro hfails
    obtain ⟨v, hset, hzero⟩ := hfails
    cases h with
    | unset unset => exact absurd unset hset.not_isUnset
    | set set denotes =>
        rw [hset.eq set] at hzero
        exact denotes.eq hzero
  · intro hzero
    cases h with
    | unset => exact absurd hzero hdefault
    | set set denotes => exact ⟨_, set, hzero ▸ denotes⟩

/-- Settings from numbers and a policy that were read, before they are looked over. -/
def gather (lookup : String → Option String) (rate players : Nat) (policy : FailurePolicy) :
    Settings where
  fleet := (setting? lookup "MATCHMAKER_FLEET_NAME").getD "lobby"
  gameMode := (setting? lookup "MATCHMAKER_GAME_MODE_ID").getD "lobby"
  tickRate := .ofMillis rate
  playersPerMatch := players
  failurePolicy := policy

section Gather

variable {rate players : Nat} {policy : FailurePolicy}

theorem problem?_eq {fleet gameMode : String} (hfleet : isBlankText fleet = false)
    (hmode : isBlankText gameMode = false) :
    Settings.problem? ⟨fleet, gameMode, .ofMillis rate, players, policy⟩ =
      if players = 0 then some .noPlayers else if rate = 0 then some .noTickRate else none := by
  have hnanos : (Duration.ofMillis rate).nanos = 0 ↔ rate = 0 := by
    simp only [Duration.ofMillis]
    omega
  simp only [Settings.problem?, hfleet, hmode, hnanos, Bool.false_eq_true, if_false]

theorem gather_problem? : (gather lookup rate players policy).problem? =
    if players = 0 then some .noPlayers else if rate = 0 then some .noTickRate else none :=
  have hdefault : isBlankText "lobby" = false := by decide
  problem?_eq (isBlankText_getD hdefault) (isBlankText_getD hdefault)

theorem makesSettings_gather
    (hrate : Gives lookup "MATCHMAKER_TICK_RATE_MS" DenotesNumber 1000 rate)
    (hplayers : Gives lookup "MATCHMAKER_PLAYERS_PER_MATCH" DenotesNumber 50 players)
    (hpolicy : Gives lookup "MATCHMAKER_FAILURE_POLICY" DenotesPolicy .drop policy) :
    MakesSettings lookup (gather lookup rate players policy) where
  fleet := gives_getD lookup _ _
  gameMode := gives_getD lookup _ _
  tickRate := Gives.map Duration.ofMillis (fun _ n hn => ⟨n, hn, rfl⟩) hrate
  playersPerMatch := hplayers
  failurePolicy := hpolicy

theorem readSettings_eq
    (hrate : readNumber lookup "MATCHMAKER_TICK_RATE_MS" 1000 = .ok rate)
    (hplayers : readNumber lookup "MATCHMAKER_PLAYERS_PER_MATCH" 50 = .ok players)
    (hpolicy : readPolicy lookup = .ok policy) :
    readSettings lookup =
      match (gather lookup rate players policy).problem? with
      | some why => .error (.settings why)
      | none => .ok (gather lookup rate players policy) := by
  have hmillis : Settings.standard.tickRate.millis = 1000 := by decide
  have hstandard : Settings.standard.playersPerMatch = 50 := rfl
  simp only [readSettings, hmillis, hstandard, hrate, hplayers, hpolicy, bind, Except.bind]
  rfl

end Gather

/-- The settings are made of the variables, or the first check that fails is reported. -/
theorem readSettings_cases (lookup : String → Option String) :
    (∃ s, readSettings lookup = .ok s ∧ MakesSettings lookup s ∧ s.problem? = none ∧
      ∀ k ∈ Check.ofSettings, ¬k.Fails lookup) ∨
    ∃ k e, readSettings lookup = .error e ∧ Check.FailsFirst lookup Check.ofSettings k ∧
      k.Reports lookup e := by
  have hmillis : Settings.standard.tickRate.millis = 1000 := by decide
  have hstandard : Settings.standard.playersPerMatch = 50 := rfl
  obtain ⟨rate, hrate, givesRate⟩ | ⟨v, why, hrate, hset, hmisspells, hnone⟩ :=
    readNumber_cases lookup "MATCHMAKER_TICK_RATE_MS" 1000
  case inr =>
    refine Or.inr ⟨_, _, ?_, .head ⟨v, hset, hnone⟩, .number hset hmisspells⟩
    simp [readSettings, hmillis, hrate, bind, Except.bind]
  have passesRate := givesRate.not_bad
  obtain ⟨players, hplayers, givesPlayers⟩ | ⟨v, why, hplayers, hset, hmisspells, hnone⟩ :=
    readNumber_cases lookup "MATCHMAKER_PLAYERS_PER_MATCH" 50
  case inr =>
    refine Or.inr ⟨_, _, ?_, .tail passesRate (.head ⟨v, hset, hnone⟩), .number hset hmisspells⟩
    simp [readSettings, hmillis, hstandard, hrate, hplayers, bind, Except.bind]
  have passesPlayers := givesPlayers.not_bad
  obtain ⟨policy, hpolicy, givesPolicy⟩ | ⟨v, hpolicy, hset, hnone⟩ := readPolicy_cases lookup
  case inr =>
    refine Or.inr ⟨_, _, ?_, .tail passesRate (.tail passesPlayers (.head ⟨v, hset, hnone⟩)),
      .policy hset (isTrimmed_trimChars _)⟩
    simp [readSettings, hmillis, hstandard, hrate, hplayers, hpolicy, bind, Except.bind,
      FailurePolicy.normalise]
  have passesPolicy := givesPolicy.not_bad
  have hread := readSettings_eq hrate hplayers hpolicy
  rw [gather_problem?] at hread
  have noPlayers_iff := givesPlayers.positive_fails_iff (by decide) .noPlayers
  have noTickRate_iff := givesRate.positive_fails_iff (by decide) .noTickRate
  by_cases hp : players = 0
  · refine Or.inr ⟨_, _, ?_, .tail passesRate (.tail passesPlayers
      (.tail passesPolicy (.head (noPlayers_iff.mpr hp)))), .positive⟩
    rw [hread, if_pos hp]
  have somePlayers := mt noPlayers_iff.mp hp
  by_cases hr : rate = 0
  · refine Or.inr ⟨_, _, ?_, .tail passesRate (.tail passesPlayers
      (.tail passesPolicy (.tail somePlayers (.head (noTickRate_iff.mpr hr))))), .positive⟩
    rw [hread, if_neg hp, if_pos hr]
  have someTickRate := mt noTickRate_iff.mp hr
  refine Or.inl ⟨_, ?_, makesSettings_gather givesRate givesPlayers givesPolicy, ?_, ?_⟩
  · rw [hread, if_neg hp, if_neg hr]
  · rw [gather_problem?, if_neg hp, if_neg hr]
  · simp only [Check.ofSettings, List.forall_mem_cons]
    exact ⟨passesRate, passesPlayers, passesPolicy, somePlayers, someTickRate, by simp⟩

/-! ## Configurations -/

structure Makes (lookup : String → Option String) (c : Config) : Prop where
  listenAddress : Gives lookup "MATCHMAKER_LISTEN_ADDR" DenotesAddress (.v4 [127, 0, 0, 1] 8080)
    c.listenAddress
  logLevel : Gives lookup "MATCHMAKER_LOG_LEVEL" Eq "info" c.logLevel
  settings : MakesSettings lookup c.settings
  allocatorUrl : Gives lookup "MATCHMAKER_ALLOCATOR_URL" (fun v u => u = some v) none c.allocatorUrl
  allocatorTimeout : Gives lookup "MATCHMAKER_ALLOCATOR_TIMEOUT_MS" DenotesMillis (.ofMillis 5000)
    c.allocatorTimeout
  notifierUrl : Gives lookup "MATCHMAKER_NOTIFIER_URL" (fun v u => u = some v) none c.notifierUrl

theorem Makes.eq {c d : Config} (h : Makes lookup c) (h' : Makes lookup d) : c = d := by
  have hmaybe : ∀ (v : String) (a b : Option String), a = some v → b = some v → a = b := by
    intro v a b ha hb
    exact ha.trans hb.symm
  have haddress := h.listenAddress.eq h'.listenAddress fun _ _ _ => DenotesAddress.eq
  have hlevel := h.logLevel.eq h'.logLevel fun v a b ha hb => ha.symm.trans hb
  have hsettings := h.settings.eq h'.settings
  have hurl := h.allocatorUrl.eq h'.allocatorUrl hmaybe
  have htimeout := h.allocatorTimeout.eq h'.allocatorTimeout fun _ _ _ => DenotesMillis.eq
  have hnotifier := h.notifierUrl.eq h'.notifierUrl hmaybe
  cases c
  cases d
  simp_all

/-- The configuration is made of the variables, or the first check that fails is reported. -/
theorem load_cases (lookup : String → Option String) :
    (∃ c, load lookup = .ok c ∧ Makes lookup c ∧ c.settings.problem? = none ∧
      ∀ k ∈ Check.order, ¬k.Fails lookup) ∨
    ∃ k e, load lookup = .error e ∧ Check.FailsFirst lookup Check.order k ∧ k.Reports lookup e := by
  obtain ⟨address, haddress, givesAddress⟩ | ⟨haddress, hbad⟩ := readListenAddress_cases lookup
  case inr =>
    refine Or.inr ⟨_, _, ?_, .head hbad, .address⟩
    simp [load, haddress, bind, Except.bind]
  have passesAddress := givesAddress.not_bad
  obtain ⟨s, hs, makes, hproblem, passes⟩ | ⟨k, e, hs, hfirst, hreports⟩ := readSettings_cases lookup
  case inr =>
    refine Or.inr ⟨k, e, ?_, .tail passesAddress hfirst.append_right, hreports⟩
    simp [load, haddress, hs, bind, Except.bind]
  obtain ⟨n, hn, givesTimeout⟩ | ⟨v, why, hn, hset, hmisspells, hnone⟩ :=
    readNumber_cases lookup "MATCHMAKER_ALLOCATOR_TIMEOUT_MS" 5000
  case inr =>
    refine Or.inr ⟨_, _, ?_, .tail passesAddress (.append_left passes (.head ⟨v, hset, hnone⟩)),
      .number hset hmisspells⟩
    simp [load, haddress, hs, hn, bind, Except.bind]
  refine Or.inl ⟨⟨address, (setting? lookup "MATCHMAKER_LOG_LEVEL").getD "info", s,
    setting? lookup "MATCHMAKER_ALLOCATOR_URL", .ofMillis n,
    setting? lookup "MATCHMAKER_NOTIFIER_URL"⟩, ?_, ?_, hproblem, ?_⟩
  · simp [load, haddress, hs, hn, bind, Except.bind, pure, Except.pure]
  · exact
      { listenAddress := givesAddress
        logLevel := gives_getD lookup _ _
        settings := makes
        allocatorUrl := gives_setting? lookup _
        allocatorTimeout := Gives.map Duration.ofMillis (fun _ n hn => ⟨n, hn, rfl⟩) givesTimeout
        notifierUrl := gives_setting? lookup _ }
  · intro k hk
    simp only [Check.order, List.cons_append, List.mem_cons, List.mem_append] at hk
    rcases hk with rfl | hk | rfl | hk
    · exact passesAddress
    · exact passes k hk
    · exact givesTimeout.not_bad
    · exact absurd hk List.not_mem_nil

/-- Variables that make a configuration. Each has to be right only if it is set. -/
structure Accepted (lookup : String → Option String) : Prop where
  listenAddress : ∀ v, IsSet lookup "MATCHMAKER_LISTEN_ADDR" v → ∃ a, DenotesAddress v a
  tickRate : ∀ v, IsSet lookup "MATCHMAKER_TICK_RATE_MS" v → ∃ n, DenotesNumber v n ∧ 1 ≤ n
  playersPerMatch : ∀ v, IsSet lookup "MATCHMAKER_PLAYERS_PER_MATCH" v →
    ∃ n, DenotesNumber v n ∧ 1 ≤ n
  failurePolicy : ∀ v, IsSet lookup "MATCHMAKER_FAILURE_POLICY" v → ∃ p, DenotesPolicy v p
  allocatorTimeout : ∀ v, IsSet lookup "MATCHMAKER_ALLOCATOR_TIMEOUT_MS" v → ∃ n, DenotesNumber v n

theorem not_bad_iff {Denotes : String → α → Prop} :
    ¬Bad lookup name Denotes ↔ ∀ v, IsSet lookup name v → ∃ a, Denotes v a := by
  simp [Bad]

/-- A number passes both of its checks if it is one and not zero. -/
theorem passes_positive_iff (why : SettingsError) :
    ¬(Check.number name).Fails lookup ∧ ¬(Check.positive name why).Fails lookup ↔
      ∀ v, IsSet lookup name v → ∃ n, DenotesNumber v n ∧ 1 ≤ n := by
  constructor
  · intro h v hset
    obtain ⟨n, hn⟩ := not_bad_iff.mp h.1 v hset
    refine ⟨n, hn, Nat.one_le_iff_ne_zero.mpr ?_⟩
    intro hzero
    exact h.2 ⟨v, hset, hzero ▸ hn⟩
  · intro h
    constructor
    · intro hbad
      obtain ⟨v, hset, hnone⟩ := hbad
      obtain ⟨n, hn, -⟩ := h v hset
      exact hnone n hn
    · intro hfails
      obtain ⟨v, hset, hzero⟩ := hfails
      obtain ⟨n, hn, hpos⟩ := h v hset
      rw [hn.eq hzero] at hpos
      omega

theorem accepted_iff : Accepted lookup ↔ ∀ k ∈ Check.order, ¬k.Fails lookup := by
  simp only [Check.order, Check.ofSettings, List.cons_append, List.nil_append,
    List.forall_mem_cons]
  constructor
  · intro h
    have hrate := (passes_positive_iff .noTickRate).mpr h.tickRate
    have hplayers := (passes_positive_iff .noPlayers).mpr h.playersPerMatch
    exact ⟨not_bad_iff.mpr h.listenAddress, hrate.1, hplayers.1, not_bad_iff.mpr h.failurePolicy,
      hplayers.2, hrate.2, not_bad_iff.mpr h.allocatorTimeout, by simp⟩
  · intro h
    obtain ⟨haddress, hrate, hplayers, hpolicy, hsomePlayers, hsomeRate, htimeout, -⟩ := h
    exact
      { listenAddress := not_bad_iff.mp haddress
        tickRate := (passes_positive_iff _).mp ⟨hrate, hsomeRate⟩
        playersPerMatch := (passes_positive_iff _).mp ⟨hplayers, hsomePlayers⟩
        failurePolicy := not_bad_iff.mp hpolicy
        allocatorTimeout := not_bad_iff.mp htimeout }

/-- Variables make a configuration just if they are accepted, and then only the one they spell out,
which a scheduler can work with. Otherwise the first check that fails is the one reported. -/
theorem load_decided (lookup : String → Option String) :
    ((∃ c, load lookup = .ok c) ↔ Accepted lookup) ∧
    (∀ c, load lookup = .ok c ↔ Accepted lookup ∧ Makes lookup c) ∧
    (∀ c, load lookup = .ok c → c.settings.problem? = none) ∧
    (∀ e, load lookup = .error e ↔
      ∃ k, Check.FailsFirst lookup Check.order k ∧ k.Reports lookup e) := by
  rw [accepted_iff]
  obtain ⟨c, hc, makes, hproblem, passes⟩ | ⟨k, e, he, hfirst, hreports⟩ := load_cases lookup
  · rw [hc]
    refine ⟨?_, ?_, ?_, ?_⟩
    · exact ⟨fun _ => passes, fun _ => ⟨c, rfl⟩⟩
    · intro d
      constructor
      · intro hd
        cases hd
        exact ⟨passes, makes⟩
      · intro hd
        rw [makes.eq hd.2]
    · intro d hd
      cases hd
      exact hproblem
    · intro e
      constructor
      · intro he
        cases he
      · intro h
        obtain ⟨k, hfirst, -⟩ := h
        obtain ⟨j, hj, hfails⟩ := hfirst.exists_fails
        exact absurd hfails (passes j hj)
  · rw [he]
    obtain ⟨j, hj, hfails⟩ := hfirst.exists_fails
    refine ⟨?_, ?_, ?_, ?_⟩
    · constructor
      · intro h
        obtain ⟨c, hc⟩ := h
        cases hc
      · intro h
        exact absurd hfails (h j hj)
    · intro d
      constructor
      · intro hd
        cases hd
      · intro hd
        exact absurd hfails (hd.1 j hj)
    · intro d hd
      cases hd
    · intro f
      constructor
      · intro hf
        cases hf
        exact ⟨k, hfirst, hreports⟩
      · intro h
        obtain ⟨l, hl, hreports'⟩ := h
        rw [hfirst.eq hl] at hreports
        rw [hreports.eq hreports']

section Trial

private def trialLookup (players timeout : String) : String → Option String
  | "MATCHMAKER_LISTEN_ADDR" => some "\t"
  | "MATCHMAKER_TICK_RATE_MS" => some " +007\n"
  | "MATCHMAKER_PLAYERS_PER_MATCH" => some players
  | "MATCHMAKER_FAILURE_POLICY" => some "ReQueue "
  | "MATCHMAKER_ALLOCATOR_TIMEOUT_MS" => some timeout
  | _ => none

variable {players timeout : String}

private theorem trial_address :
    ∀ v, IsSet (trialLookup players timeout) "MATCHMAKER_LISTEN_ADDR" v → ∃ a, DenotesAddress v a := by
  intro v hset
  obtain ⟨hv, c, hc, hblank⟩ := hset
  cases hv
  rw [show c = '\t' by simpa using hc] at hblank
  cases hblank

private theorem trial_rate : ∀ v, IsSet (trialLookup players timeout) "MATCHMAKER_TICK_RATE_MS" v →
    ∃ n, DenotesNumber v n ∧ 1 ≤ n := by
  intro v hset
  cases hset.1
  exact ⟨7, denotesNumber_iff.mpr rfl, by decide⟩

private theorem trial_policy : ∀ v,
    IsSet (trialLookup players timeout) "MATCHMAKER_FAILURE_POLICY" v → ∃ p, DenotesPolicy v p := by
  intro v hset
  cases hset.1
  exact ⟨.requeue, denotesPolicy_iff.mpr (by decide)⟩

/-- A match for nobody is reported although the timeout is no number; it may be zero. -/
theorem trial_load :
    load (trialLookup "0" "x") = .error (.settings .noPlayers) ∧
    Accepted (trialLookup "1" "0") ∧
    ∃ c, load (trialLookup "1" "0") = .ok c ∧ c.settings.problem? = none := by
  have zero : DenotesNumber "0" 0 := denotesNumber_iff.mpr rfl
  have one : DenotesNumber "1" 1 := denotesNumber_iff.mpr rfl
  have accepted : Accepted (trialLookup "1" "0") := by
    refine ⟨trial_address, trial_rate, ?_, trial_policy, ?_⟩
    · intro v hset
      cases hset.1
      exact ⟨1, one, Nat.le_refl 1⟩
    · intro v hset
      cases hset.1
      exact ⟨0, zero⟩
  obtain ⟨exists_iff, _, valid, _⟩ := load_decided (trialLookup "1" "0")
  obtain ⟨c, hc⟩ := exists_iff.mpr accepted
  obtain ⟨_, _, _, reports⟩ := load_decided (trialLookup "0" "x")
  have rate : ¬(Check.number "MATCHMAKER_TICK_RATE_MS").Fails (trialLookup "0" "x") :=
    ((passes_positive_iff .noTickRate).mpr trial_rate).1
  have number : ¬(Check.number "MATCHMAKER_PLAYERS_PER_MATCH").Fails (trialLookup "0" "x") := by
    intro hbad
    obtain ⟨v, hset, hnone⟩ := hbad
    cases hset.1
    exact hnone 0 zero
  refine ⟨(reports _).mpr ⟨_, .tail (not_bad_iff.mpr trial_address) (.tail rate (.tail number
    (.tail (not_bad_iff.mpr trial_policy) (.head ?_)))), .positive⟩, accepted, c, hc, valid c hc⟩
  exact ⟨"0", ⟨rfl, '0', by decide, by decide⟩, zero⟩

end Trial

end Config

end Matchmaking
