import Mathlib.Data.List.Induction
import Mathlib.Data.List.Nodup
import Matchmaking.Queue.Basic

/-!
# Entries in order

What a queue looks like from outside: one list of wishes, a player each. A new player comes last, a
present one keeps the place, and wishes that are put back come in front.
-/

namespace Matchmaking.Entries

/-- The entries after a wish: a present player keeps the place, a new one comes last. -/
def write (es : List Intent) (i : Intent) : List Intent :=
  if i.player ∈ es.map Intent.player then es.map fun e => if e.player = i.player then i else e
  else es ++ [i]

def firsts : List Intent → List Intent
  | [] => []
  | i :: is => i :: (firsts is).filter (·.player ≠ i.player)

/-- The first wish of each player who has no entry. -/
def newcomers (es is : List Intent) : List Intent :=
  (firsts is).filter (·.player ∉ es.map Intent.player)

def first? (is : List Intent) (p : PlayerId) : Option Bool :=
  (is.find? (·.player = p)).map Intent.autoTeleport

def last? (is : List Intent) (p : PlayerId) : Option Bool := first? is.reverse p

section First

variable {is : List Intent} {i : Intent} {p : PlayerId} {v : Bool}

theorem first?_cons :
    first? (i :: is) p = if i.player = p then some i.autoTeleport else first? is p := by
  by_cases h : i.player = p <;> simp [first?, h]

theorem first?_append (is js : List Intent) (p : PlayerId) :
    first? (is ++ js) p = (first? is p).or (first? js p) := by
  rw [first?, List.find?_append, Option.map_or]
  rfl

theorem first?_eq_none_iff : first? is p = none ↔ p ∉ is.map Intent.player := by
  simp [first?]

theorem isSome_first? : (first? is p).isSome ↔ p ∈ is.map Intent.player := by
  rw [Option.isSome_iff_ne_none, ne_eq, first?_eq_none_iff, not_not]

theorem mem_of_first? (h : first? is p = some v) : ⟨p, v⟩ ∈ is := by
  obtain ⟨i, hi, rfl⟩ := Option.map_eq_some_iff.mp h
  have hp : i.player = p := by simpa using List.find?_some hi
  exact hp ▸ List.mem_of_find?_eq_some hi

theorem mem_firsts_iff : i ∈ firsts is ↔ first? is i.player = some i.autoTeleport := by
  induction is with
  | nil => simp [firsts, first?]
  | cons j js ih =>
      simp only [firsts, List.mem_cons, List.mem_filter, ih, first?_cons, decide_eq_true_eq]
      by_cases h : j.player = i.player
      · have hij : i = j ↔ j.autoTeleport = i.autoTeleport := by
          constructor
          · rintro rfl; rfl
          · intro hv; cases i; cases j; simp_all
        simp [h, hij]
      · have hij : i ≠ j := by rintro rfl; exact h rfl
        simp [h, hij, Ne.symm h]

theorem mem_players_firsts : p ∈ (firsts is).map Intent.player ↔ p ∈ is.map Intent.player := by
  induction is with
  | nil => rfl
  | cons j js ih =>
      simp only [List.mem_map] at ih
      simp only [firsts, List.map_cons, List.mem_cons, List.mem_map, List.mem_filter,
        decide_eq_true_eq]
      constructor
      · rintro (rfl | ⟨i, ⟨hi, _⟩, rfl⟩)
        · exact Or.inl rfl
        · exact Or.inr (ih.mp ⟨i, hi, rfl⟩)
      · rintro (rfl | hp)
        · exact Or.inl rfl
        · by_cases h : p = j.player
          · exact Or.inl h
          · obtain ⟨i, hi, rfl⟩ := ih.mpr hp
            exact Or.inr ⟨i, ⟨hi, h⟩, rfl⟩

theorem firsts_nodup (is : List Intent) : ((firsts is).map Intent.player).Nodup := by
  induction is with
  | nil => exact List.nodup_nil
  | cons i is ih =>
      rw [firsts, List.map_cons, List.nodup_cons]
      refine ⟨by simp, ih.sublist (List.Sublist.map _ List.filter_sublist)⟩

theorem firsts_eq_self (h : (is.map Intent.player).Nodup) : firsts is = is := by
  induction is with
  | nil => rfl
  | cons i is ih =>
      rw [List.map_cons, List.nodup_cons] at h
      rw [firsts, ih h.2, List.filter_eq_self.mpr]
      intro j hj
      have hne : j.player ≠ i.player := fun he => h.1 (he ▸ List.mem_map_of_mem hj)
      simpa using hne

theorem mem_iff_first? (h : (is.map Intent.player).Nodup) :
    i ∈ is ↔ first? is i.player = some i.autoTeleport := by
  rw [← mem_firsts_iff, firsts_eq_self h]

/-- Entries are told by the order of their players and by each player's wish. -/
theorem ext {js : List Intent} (hp : is.map Intent.player = js.map Intent.player)
    (hn : (is.map Intent.player).Nodup) (hv : ∀ p, first? is p = first? js p) : is = js := by
  induction is generalizing js with
  | nil => exact (List.map_eq_nil_iff.mp hp.symm).symm
  | cons i is ih =>
      cases js with
      | nil => simp at hp
      | cons j js =>
          simp only [List.map_cons, List.cons.injEq] at hp
          rw [List.map_cons, List.nodup_cons] at hn
          have hhead : i.autoTeleport = j.autoTeleport := by
            have h := hv i.player
            rw [first?_cons, if_pos rfl, first?_cons, if_pos hp.1.symm] at h
            exact Option.some.inj h
          have htail : ∀ p, first? is p = first? js p := by
            intro p
            by_cases h : i.player = p
            · subst h
              rw [first?_eq_none_iff.mpr hn.1, first?_eq_none_iff.mpr (hp.2 ▸ hn.1)]
            · have hvp := hv p
              rwa [first?_cons, if_neg h, first?_cons, if_neg (hp.1 ▸ h)] at hvp
          have hij : i = j := by
            cases i; cases j; simp_all
          rw [hij, ih hp.2 hn.2 htail]

theorem firsts_append_singleton (is : List Intent) (i : Intent) :
    firsts (is ++ [i]) =
      if i.player ∈ is.map Intent.player then firsts is else firsts is ++ [i] := by
  induction is with
  | nil => rfl
  | cons j js ih =>
      rw [List.cons_append, firsts, ih, firsts, List.map_cons]
      by_cases hj : i.player = j.player
      · split <;> simp [hj, List.filter_append]
      · split <;> simp_all [List.filter_append]

end First

section Newcomers

variable {es is : List Intent} {i : Intent} {p : PlayerId}

theorem mem_newcomers_iff :
    i ∈ newcomers es is ↔
      i.player ∉ es.map Intent.player ∧ first? is i.player = some i.autoTeleport := by
  rw [newcomers, List.mem_filter, mem_firsts_iff, decide_eq_true_eq, and_comm]

theorem newcomers_nodup (es is : List Intent) : ((newcomers es is).map Intent.player).Nodup :=
  (firsts_nodup is).sublist (List.filter_sublist.map _)

theorem newcomers_congr {fs : List Intent}
    (h : ∀ p, p ∈ es.map Intent.player ↔ p ∈ fs.map Intent.player) (is : List Intent) :
    newcomers es is = newcomers fs is := by
  apply List.filter_congr
  intro i _
  simp only [h i.player]

theorem first?_newcomers (es is : List Intent) (p : PlayerId) :
    first? (newcomers es is) p = if (first? es p).isSome then none else first? is p := by
  by_cases hp : p ∈ es.map Intent.player
  · rw [if_pos (isSome_first?.mpr hp), first?_eq_none_iff]
    intro h
    obtain ⟨i, hi, rfl⟩ := List.mem_map.mp h
    exact (mem_newcomers_iff.mp hi).1 hp
  · rw [if_neg (mt isSome_first?.mp hp)]
    cases hv : first? is p with
    | none =>
        rw [first?_eq_none_iff] at hv ⊢
        intro h
        obtain ⟨i, hi, rfl⟩ := List.mem_map.mp h
        exact hv (mem_players_firsts.mp (List.mem_map_of_mem (List.mem_filter.mp hi).1))
    | some v =>
        exact (mem_iff_first? (i := ⟨p, v⟩) (newcomers_nodup es is)).mp
          (mem_newcomers_iff.mpr ⟨hp, hv⟩)

theorem mem_players_newcomers :
    p ∈ (newcomers es is).map Intent.player ↔
      p ∉ es.map Intent.player ∧ p ∈ is.map Intent.player := by
  have hfirsts : p ∈ is.map Intent.player ↔ p ∈ (firsts is).map Intent.player :=
    mem_players_firsts.symm
  rw [hfirsts]
  simp only [List.mem_map, newcomers, List.mem_filter, decide_eq_true_eq]
  constructor
  · rintro ⟨i, ⟨hi, hes⟩, rfl⟩
    exact ⟨hes, i, hi, rfl⟩
  · rintro ⟨hes, i, hi, rfl⟩
    exact ⟨i, ⟨hi, hes⟩, rfl⟩

theorem newcomers_append_singleton (es is : List Intent) (i : Intent) :
    newcomers es (is ++ [i]) =
      if i.player ∈ es.map Intent.player ∨ i.player ∈ is.map Intent.player then newcomers es is
      else newcomers es is ++ [i] := by
  rw [newcomers, firsts_append_singleton]
  by_cases his : i.player ∈ is.map Intent.player
  · rw [if_pos his, if_pos (Or.inr his)]
    rfl
  · rw [if_neg his, List.filter_append, List.filter_singleton]
    by_cases hes : i.player ∈ es.map Intent.player
    · rw [if_pos (Or.inl hes)]
      simp only [hes, not_true_eq_false, decide_false]
      exact List.append_nil _
    · rw [if_neg (not_or.mpr ⟨hes, his⟩)]
      simp only [hes, not_false_eq_true, decide_true]
      rfl

end Newcomers

section Last

variable {is : List Intent} {p : PlayerId}

theorem last?_append_singleton (i : Intent) :
    last? (is ++ [i]) p = if i.player = p then some i.autoTeleport else last? is p := by
  rw [last?, List.reverse_append, List.reverse_singleton, List.singleton_append, first?_cons]
  rfl

theorem last?_eq_none_iff : last? is p = none ↔ p ∉ is.map Intent.player := by
  rw [last?, first?_eq_none_iff, List.map_reverse, List.mem_reverse]

end Last

/-! ## Writing -/

section Write

variable {es is : List Intent} {i : Intent} {p : PlayerId}

theorem players_write (es : List Intent) (i : Intent) :
    (write es i).map Intent.player =
      if i.player ∈ es.map Intent.player then es.map Intent.player
      else es.map Intent.player ++ [i.player] := by
  unfold write
  split
  · rw [List.map_map]
    apply List.map_congr_left
    intro e _
    by_cases h : e.player = i.player <;> simp [h]
  · rw [List.map_append, List.map_singleton]

private theorem first?_overwrite (es : List Intent) (i : Intent) (p : PlayerId) :
    first? (es.map fun e => if e.player = i.player then i else e) p =
      if i.player = p ∧ p ∈ es.map Intent.player then some i.autoTeleport else first? es p := by
  induction es with
  | nil => simp
  | cons e es ih =>
      simp only [List.map_cons, first?_cons, ih, List.mem_cons]
      by_cases hp : i.player = p
      · subst hp
        by_cases he : e.player = i.player
        · simp [he]
        · simp [he, Ne.symm he]
      · by_cases he : e.player = i.player
        · simp [he, hp]
        · simp [he, hp]

theorem first?_write (es : List Intent) (i : Intent) (p : PlayerId) :
    first? (write es i) p = if i.player = p then some i.autoTeleport else first? es p := by
  unfold write
  by_cases hi : i.player ∈ es.map Intent.player
  · rw [if_pos hi, first?_overwrite]
    by_cases hp : i.player = p
    · rw [if_pos ⟨hp, hp ▸ hi⟩, if_pos hp]
    · rw [if_neg fun h => hp h.1, if_neg hp]
  · rw [if_neg hi, first?_append, first?_cons]
    by_cases hp : i.player = p
    · rw [if_pos hp, first?_eq_none_iff.mpr (hp ▸ hi), Option.none_or, if_pos hp]
    · rw [if_neg hp, if_neg hp]
      exact Option.or_none

/-- A later wish of a player takes the place of an earlier one. -/
theorem write_write {j : Intent} (same : i.player = j.player) :
    write (write es i) j = write es j := by
  have hplayers : j.player ∈ (write es i).map Intent.player := by
    rw [players_write, same]
    split
    · assumption
    · simp
  rw [write, if_pos hplayers, write, write, same]
  split
  · rw [List.map_map]
    apply List.map_congr_left
    intro e _
    by_cases he : e.player = j.player <;> simp [he, same]
  · rename_i hj
    have hothers : es.map (fun e => if e.player = j.player then j else e) = es := by
      conv_rhs => rw [← List.map_id es]
      apply List.map_congr_left
      intro e he
      have hne : e.player ≠ j.player := fun heq => hj (heq ▸ List.mem_map_of_mem he)
      rw [if_neg hne, id]
    rw [List.map_append, hothers, List.map_singleton, if_pos same]

def writeAll (es : List Intent) (is : List Intent) : List Intent := is.foldl write es

theorem writeAll_append (es is js : List Intent) :
    writeAll es (is ++ js) = writeAll (writeAll es is) js := List.foldl_append

theorem writeAll_append_singleton (es is : List Intent) (i : Intent) :
    writeAll es (is ++ [i]) = write (writeAll es is) i := writeAll_append es is [i]

/-- The last wish of a player counts; without one, the entry stays. -/
theorem first?_writeAll (es is : List Intent) (p : PlayerId) :
    first? (writeAll es is) p = (last? is p).or (first? es p) := by
  induction is using List.reverseRecOn with
  | nil => rfl
  | append_singleton is i ih =>
      rw [writeAll_append_singleton, first?_write, ih, last?_append_singleton]
      split <;> rfl

theorem mem_players_writeAll :
    p ∈ (writeAll es is).map Intent.player ↔
      p ∈ es.map Intent.player ∨ p ∈ is.map Intent.player := by
  rw [← isSome_first?, first?_writeAll, Option.isSome_or, Bool.or_eq_true, isSome_first?,
    Option.isSome_iff_ne_none, ne_eq, last?_eq_none_iff, not_not, or_comm]

/-- Every entry keeps its place; new players come behind, in the order of their first wishes. -/
theorem players_writeAll (es is : List Intent) :
    (writeAll es is).map Intent.player =
      es.map Intent.player ++ (newcomers es is).map Intent.player := by
  induction is using List.reverseRecOn with
  | nil => simp [writeAll, newcomers, firsts]
  | append_singleton is i ih =>
      rw [writeAll_append_singleton, players_write, newcomers_append_singleton]
      by_cases h : i.player ∈ es.map Intent.player ∨ i.player ∈ is.map Intent.player
      · rw [if_pos (mem_players_writeAll.mpr h), if_pos h, ih]
      · rw [if_neg (mt mem_players_writeAll.mp h), if_neg h, ih, List.map_append,
          List.map_singleton, List.append_assoc]

/-- Without entries at the start, every player comes in the order of the first wishes. -/
theorem players_writeAll_nil (is : List Intent) :
    (writeAll [] is).map Intent.player = (firsts is).map Intent.player := by
  have hall : newcomers [] is = firsts is :=
    List.filter_eq_self.mpr fun i _ => decide_eq_true List.not_mem_nil
  rw [players_writeAll, hall]
  rfl

theorem last?_of_mem_writeAll_nil (hi : i ∈ writeAll [] is) :
    last? is i.player = some i.autoTeleport := by
  have hnodup : ((writeAll [] is).map Intent.player).Nodup := by
    rw [players_writeAll_nil]
    exact firsts_nodup is
  have hfirst := (mem_iff_first? hnodup).mp hi
  rw [first?_writeAll] at hfirst
  exact (Option.or_none (o := last? is i.player)).symm.trans hfirst

end Write

end Matchmaking.Entries
