import Mathlib.Data.List.Forall2
import Matchmaking.Net.SocketAddress
import Matchmaking.Number.Positional

/-!
# Which texts are socket addresses

A text is read as an address just if it is one of version 4, four numbers of a byte with points
between them, or one of version 6 in brackets: eight groups of hexadecimal digits with colons
between them, of which the last two may be written as an address of version 4 and any zeros once as
two colons. A port of decimal digits follows.
-/

namespace Matchmaking.Net.SocketAddress

open Text Number

/-! ## The grammar -/

/-- Digits in a base that stand for a number within a bound, no more than a width if there is one,
and without a zero in front unless that is allowed. -/
structure IsNumber (base : Nat) (width : Option Nat) (padded : Bool) (most n : Nat)
    (cs : List Char) : Prop where
  ne_nil : cs ≠ []
  value : ∃ ds, List.Forall₂ (fun c d => digitIn? base c = some d) cs ds ∧ ofDigits base ds = n
  narrow : ∀ w ∈ width, cs.length ≤ w
  front : padded = false → cs.head? = some '0' → cs.length = 1
  le : n ≤ most

def IsOctet : Nat → List Char → Prop := IsNumber 10 (some 3) false 255

def IsGroup : Nat → List Char → Prop := IsNumber 16 (some 4) true 65535

def IsPort : Nat → List Char → Prop := IsNumber 10 none true 65535

inductive IsOctets : List Nat → List Char → Prop where
  | intro {a b c d : Nat} {as bs cs ds : List Char} (first : IsOctet a as) (second : IsOctet b bs)
      (third : IsOctet c cs) (fourth : IsOctet d ds) :
      IsOctets [a, b, c, d] (as ++ '.' :: (bs ++ '.' :: (cs ++ '.' :: ds)))

/-- Groups with colons between them. The flag tells whether the last two are written as an address
of version 4. -/
inductive IsGroups : List Nat → Bool → List Char → Prop where
  | group {g : Nat} {cs : List Char} (group : IsGroup g cs) : IsGroups [g] false cs
  | mapped {a b c d : Nat} {cs : List Char} (octets : IsOctets [a, b, c, d] cs) :
      IsGroups [a * 256 + b, c * 256 + d] true cs
  | cons {g : Nat} {gs : List Nat} {mapped : Bool} {cs cs' : List Char} (group : IsGroup g cs)
      (rest : IsGroups gs mapped cs') : IsGroups (g :: gs) mapped (cs ++ ':' :: cs')

/-- Groups on one side of two colons, if there are any. -/
inductive IsSide : List Nat → Bool → List Char → Prop where
  | none : IsSide [] false []
  | some {gs : List Nat} {mapped : Bool} {cs : List Char} (groups : IsGroups gs mapped cs) :
      IsSide gs mapped cs

/-- An address of version 6. Two colons stand for one group of zero at least. -/
inductive IsSegments : List Nat → List Char → Prop where
  | full {gs : List Nat} {mapped : Bool} {cs : List Char} (groups : IsGroups gs mapped cs)
      (length : gs.length = 8) : IsSegments gs cs
  | short {front back : List Nat} {mapped : Bool} {cs cs' : List Char}
      (before : IsSide front false cs) (after : IsSide back mapped cs')
      (length : front.length + back.length ≤ 7) :
      IsSegments (front ++ List.replicate (8 - front.length - back.length) 0 ++ back)
        (cs ++ ':' :: ':' :: cs')

inductive IsScope : Nat → List Char → Prop where
  | none : IsScope 0 []
  | some {n : Nat} {cs : List Char} (number : IsNumber 10 none true mostUnsigned32 n cs) :
      IsScope n ('%' :: cs)

/-- An address with its port. -/
inductive IsText : SocketAddress → List Char → Prop where
  | v4 {os : List Nat} {n : Nat} {cs ps : List Char} (octets : IsOctets os cs)
      (port : IsPort n ps) : IsText (.v4 os n) (cs ++ ':' :: ps)
  | v6 {gs : List Nat} {z n : Nat} {cs zs ps : List Char} (segments : IsSegments gs cs)
      (scope : IsScope z zs) (port : IsPort n ps) :
      IsText (.v6 gs z n) ('[' :: (cs ++ (zs ++ ']' :: ':' :: ps)))

variable {α β : Type} {scan : Scanner α} {cs rest : List Char} {a : α} {base most n : Nat}
  {width : Option Nat} {padded : Bool}

private theorem bind_eq_some_iff {f : α → Scanner β} {r : β × List Char} :
    (scan >>= f) cs = some r ↔ ∃ a rest, scan cs = some (a, rest) ∧ f a rest = some r := by
  show ((scan cs).bind fun x => f x.1 x.2) = some r ↔ _
  rw [Option.bind_eq_some_iff, Prod.exists]

private theorem bind_of_some {f : α → Scanner β} (h : scan cs = some (a, rest)) :
    (scan >>= f) cs = f a rest := by
  show ((scan cs).bind fun x => f x.1 x.2) = _
  rw [h]
  rfl

private theorem bind_of_none {f : α → Scanner β} (h : scan cs = none) :
    (scan >>= f) cs = none := by
  show ((scan cs).bind fun x => f x.1 x.2) = _
  rw [h]
  rfl

private theorem char_cons (mark : Char) (cs : List Char) : char mark (mark :: cs) = some ((), cs) :=
  if_pos rfl

private theorem eq_of_char {mark : Char} {u : Unit} (h : char mark cs = some (u, rest)) :
    cs = mark :: rest := by
  cases cs with
  | nil => cases h
  | cons c cs =>
      rw [char] at h
      split at h
      · rename_i hc
        cases h
        rw [hc]
      · cases h

/-! ## Numbers -/

private def Stops (base : Nat) (rest : List Char) : Prop := ∀ c ∈ rest.head?, digitIn? base c = none

private theorem spanDigits_append {ds : List Nat}
    (digits : List.Forall₂ (fun c d => digitIn? base c = some d) cs ds) (stops : Stops base rest) :
    spanDigits base (cs ++ rest) = (ds, rest) := by
  induction digits with
  | nil =>
      cases rest with
      | nil => rfl
      | cons c rest =>
          rw [List.nil_append, spanDigits, stops c rfl]
  | cons hd _ ih =>
      rw [List.cons_append, spanDigits, hd, ih]
      rfl

private theorem exists_of_spanDigits {ds : List Nat} (h : spanDigits base cs = (ds, rest)) :
    ∃ front, cs = front ++ rest ∧
      List.Forall₂ (fun c d => digitIn? base c = some d) front ds := by
  induction cs generalizing ds with
  | nil =>
      cases h
      exact ⟨[], rfl, .nil⟩
  | cons c cs ih =>
      rw [spanDigits] at h
      split at h
      · cases h
        exact ⟨[], rfl, .nil⟩
      · rename_i d hd
        cases hspan : spanDigits base cs with
        | mk es rest' =>
            rw [hspan] at h
            cases h
            obtain ⟨front, rfl, digits⟩ := ih hspan
            exact ⟨c :: front, rfl, .cons hd digits⟩

theorem digitIn?_eq_zero_iff {c : Char} (pos : 0 < base) : digitIn? base c = some 0 ↔ c = '0' := by
  constructor
  · intro h
    rw [digitIn?, Option.filter_eq_some_iff] at h
    obtain ⟨h, -⟩ := h
    split at h
    · rename_i hc
      have hle : '0'.toNat ≤ c.toNat := hc.1
      have hzero : c.toNat - 48 = 0 := Option.some.inj h
      have hcode : '0'.toNat = 48 := rfl
      exact Char.toNat_inj.mp (by omega)
    split at h
    · rename_i hc
      have hle : 'a'.toNat ≤ c.toNat := hc.1
      have hzero : c.toNat - 87 = 0 := Option.some.inj h
      have hcode : 'a'.toNat = 97 := rfl
      omega
    split at h
    · rename_i hc
      have hle : 'A'.toNat ≤ c.toNat := hc.1
      have hzero : c.toNat - 55 = 0 := Option.some.inj h
      have hcode : 'A'.toNat = 65 := rfl
      omega
    · cases h
  · rintro rfl
    simp [digitIn?, pos]

/-- Digits start with a zero that is not the only one just if their characters do. -/
private theorem startsWithZero_iff {ds : List Nat} (pos : 0 < base)
    (digits : List.Forall₂ (fun c d => digitIn? base c = some d) cs ds) :
    (!padded && 1 < ds.length && ds.head? == some 0) = true ↔
      padded = false ∧ cs.head? = some '0' ∧ cs.length ≠ 1 := by
  cases digits with
  | nil => simp
  | @cons c d cs ds hd tail =>
      have hzero : d = 0 ↔ c = '0' := by
        rw [← digitIn?_eq_zero_iff pos, hd, Option.some.injEq]
      simp only [List.length_cons, tail.length_eq, List.head?_cons, Bool.and_eq_true,
        Bool.not_eq_true', decide_eq_true_eq, beq_iff_eq, Option.some.injEq, hzero, and_assoc]
      exact and_congr_right fun _ => and_comm.trans (and_congr_right fun _ => by omega)

theorem number_append (h : IsNumber base width padded most n cs) (pos : 0 < base)
    (stops : Stops base rest) : number base width padded most (cs ++ rest) = some (n, rest) := by
  obtain ⟨ds, digits, value⟩ := h.value
  have hlength := digits.length_eq
  have hne : ds ≠ [] := by
    rw [← List.length_pos_iff, ← hlength]
    exact List.length_pos_iff.mpr h.ne_nil
  have narrow : width.any (fun w => w < ds.length) = false := by
    rw [Option.any_eq_false]
    intro w hw
    have hle := h.narrow w hw
    exact decide_eq_false (by omega)
  have front : ¬(!padded && 1 < ds.length && ds.head? == some 0) = true := by
    rw [startsWithZero_iff pos digits]
    rintro ⟨hpadded, hzero, hmore⟩
    exact hmore (h.front hpadded hzero)
  have bounded : ds.foldl (fun n d => n * base + d) 0 ≤ most := by
    show ofDigits base ds ≤ most
    rw [value]
    exact h.le
  simp only [number, spanDigits_append digits stops, if_neg hne, narrow, Bool.false_eq_true,
    if_false, if_neg front, if_pos bounded]
  exact congrArg (fun n => some (n, rest)) value

theorem exists_of_number (h : number base width padded most cs = some (n, rest)) (pos : 0 < base) :
    ∃ front, cs = front ++ rest ∧ IsNumber base width padded most n front := by
  cases hspan : spanDigits base cs with
  | mk ds rest' =>
      obtain ⟨front, rfl, digits⟩ := exists_of_spanDigits hspan
      simp only [number, hspan] at h
      split at h
      · cases h
      rename_i hne
      split at h
      · cases h
      rename_i hnarrow
      split at h
      · cases h
      rename_i hfront
      split at h
      · rename_i hle
        cases h
        refine ⟨front, rfl, ?_, ⟨ds, digits, rfl⟩, ?_, ?_, hle⟩
        · rintro rfl
          cases digits
          exact hne rfl
        · intro w hw
          subst hw
          rw [digits.length_eq]
          simpa using hnarrow
        · intro hpadded hzero
          by_contra hmore
          exact hfront ((startsWithZero_iff pos digits).mpr ⟨hpadded, hzero, hmore⟩)
      · cases h

theorem IsNumber.isSome (h : IsNumber base width padded most n cs) :
    ∀ c ∈ cs, (digitIn? base c).isSome = true := by
  obtain ⟨ds, digits, -⟩ := h.value
  clear h
  induction digits with
  | nil => exact fun c hc => nomatch hc
  | cons hd _ ih => exact List.forall_mem_cons.mpr ⟨hd ▸ rfl, ih⟩

private theorem stops_cons {c : Char} (h : digitIn? base c = none) : Stops base (c :: rest) := by
  intro d hd
  cases hd
  exact h

private theorem Stops.decimal (h : Stops 16 rest) : Stops 10 rest := by
  intro c hc
  have hnone := h c hc
  rw [digitIn?, Option.filter_eq_none_iff] at hnone ⊢
  intro d hd hlt
  refine hnone d hd ?_
  simp only [decide_eq_true_eq] at hlt ⊢
  omega

private theorem stops_nil : Stops base [] := fun _ h => nomatch h

/-! ## Version 4 -/

theorem octets_append {os : List Nat} (h : IsOctets os cs) (stops : Stops 10 rest) :
    octets (cs ++ rest) = some (os, rest) := by
  obtain ⟨first, second, third, fourth⟩ := h
  have point : ∀ tail, Stops 10 ('.' :: tail) := fun tail => stops_cons (by decide)
  simp only [List.append_assoc, List.cons_append]
  rw [octets, bind_of_some (number_append first (by decide) (point _)),
    bind_of_some (char_cons _ _), bind_of_some (number_append second (by decide) (point _)),
    bind_of_some (char_cons _ _), bind_of_some (number_append third (by decide) (point _)),
    bind_of_some (char_cons _ _), bind_of_some (number_append fourth (by decide) stops)]
  rfl

theorem exists_of_octets {os : List Nat} (h : octets cs = some (os, rest)) :
    ∃ front, cs = front ++ rest ∧ IsOctets os front := by
  simp only [octets, bind_eq_some_iff] at h
  obtain ⟨a, _, ha, _, _, h₁, b, _, hb, _, _, h₂, c, _, hc, _, _, h₃, d, _, hd, h⟩ := h
  cases h
  obtain ⟨as, rfl, first⟩ := exists_of_number ha (by decide)
  obtain rfl := eq_of_char h₁
  obtain ⟨bs, rfl, second⟩ := exists_of_number hb (by decide)
  obtain rfl := eq_of_char h₂
  obtain ⟨cs, rfl, third⟩ := exists_of_number hc (by decide)
  obtain rfl := eq_of_char h₃
  obtain ⟨ds, rfl, fourth⟩ := exists_of_number hd (by decide)
  refine ⟨_, ?_, .intro first second third fourth⟩
  simp only [List.append_assoc, List.cons_append]

/-- Digits with no point after them are no address of version 4. -/
theorem octets_of_group {g : Nat} (h : IsGroup g cs) (stops : Stops 16 rest)
    (pointless : ∀ tail, rest ≠ '.' :: tail) : octets (cs ++ rest) = none := by
  rw [Option.eq_none_iff_forall_ne_some]
  intro r hread
  simp only [octets, bind_eq_some_iff] at hread
  obtain ⟨a, _, ha, _, tail, hpoint, _⟩ := hread
  obtain ⟨as, happend, first⟩ := exists_of_number ha (by decide)
  obtain rfl := eq_of_char hpoint
  rcases List.append_eq_append_iff.mp happend with ⟨more, rfl, hrest⟩ | ⟨more, rfl, hrest⟩
  · cases more with
    | nil => exact pointless tail hrest
    | cons c more =>
        have hsome := first.isSome c (by simp)
        rw [stops.decimal c (by rw [hrest]; rfl)] at hsome
        cases hsome
  · cases more with
    | nil => exact pointless tail hrest.symm
    | cons c more =>
        have hc : c = '.' := (List.cons.inj hrest).1.symm
        have hsome := h.isSome c (by simp)
        rw [hc] at hsome
        exact absurd hsome (by decide)

/-! ## Version 6 -/

/-- What can stand after groups: two colons, a scope or the closing bracket. -/
private inductive Ends : List Char → Prop where
  | colons {rest : List Char} : Ends (':' :: ':' :: rest)
  | scope {rest : List Char} : Ends ('%' :: rest)
  | bracket {rest : List Char} : Ends (']' :: rest)

private theorem Ends.stops (h : Ends rest) : Stops 16 rest := by
  cases h <;> exact stops_cons (by decide)

private theorem Ends.pointless (h : Ends rest) : ∀ tail, rest ≠ '.' :: tail := by
  rintro tail rfl
  cases h

private theorem number_of_stops (h : Stops base rest) :
    number base width padded most rest = none := by
  have hspan : spanDigits base rest = ([], rest) := spanDigits_append .nil h
  simp [number, hspan]

private theorem octets_of_stops (h : Stops 10 rest) : octets rest = none :=
  bind_of_none (number_of_stops h)

private def lead (first : Bool) (cs : List Char) : List Char := if first then cs else ':' :: cs

private theorem afterColon_lead (first : Bool) (scan : Scanner α) (cs : List Char) :
    afterColon first scan (lead first cs) = scan cs := by
  cases first with
  | true => rfl
  | false => exact bind_of_some (char_cons _ _)

private theorem exists_of_afterColon {first : Bool} (h : afterColon first scan cs = some (a, rest)) :
    ∃ tail, cs = lead first tail ∧ scan tail = some (a, rest) := by
  cases first with
  | true => exact ⟨cs, rfl, h⟩
  | false =>
      obtain ⟨_, tail, hcolon, hscan⟩ := bind_eq_some_iff.mp h
      exact ⟨tail, eq_of_char hcolon, hscan⟩

private theorem afterColon_of_ends (h : Ends rest) (first : Bool)
    (fails : ∀ cs, Stops 16 cs → scan cs = none) : afterColon first scan rest = none := by
  cases first with
  | true => exact fails rest h.stops
  | false =>
      cases h with
      | colons =>
          have hcolon := afterColon_lead false scan
          exact (hcolon _).trans (fails _ (stops_cons (by decide)))
      | scope => rfl
      | bracket => rfl

section Groups

variable {room : Nat} {first : Bool} {a b c d g : Nat} {gs : List Nat} {mapped : Bool}
  {rest' : List Char}

private theorem groups_none (octets : room ≠ 0 → afterColon first octets cs = none)
    (group : afterColon first (number 16 (some 4) true 65535) cs = none) :
    groups (room + 1) first cs = (([], false), cs) := by
  simp only [groups, ite_eq_left_iff.mpr octets, group]

private theorem groups_mapped (pos : room ≠ 0)
    (octets : afterColon first octets cs = some ([a, b, c, d], rest)) :
    groups (room + 1) first cs = (([a * 256 + b, c * 256 + d], true), rest) := by
  simp only [groups, if_neg pos, octets]

private theorem groups_cons (octets : room ≠ 0 → afterColon first octets cs = none)
    (group : afterColon first (number 16 (some 4) true 65535) cs = some (g, rest))
    (later : groups room false rest = ((gs, mapped), rest')) :
    groups (room + 1) first cs = ((g :: gs, mapped), rest') := by
  simp only [groups, ite_eq_left_iff.mpr octets, group, later]

private theorem groups_of_ends (h : Ends rest) (room : Nat) (first : Bool) :
    groups room first rest = (([], false), rest) := by
  cases room with
  | zero => rfl
  | succ room =>
      have hoctets := afterColon_of_ends h first fun _ stops => octets_of_stops stops.decimal
      exact groups_none (fun _ => hoctets) (afterColon_of_ends h first fun _ => number_of_stops)

private theorem groups_group (group : IsGroup g cs) (stops : Stops 16 rest)
    (pointless : ∀ tail, rest ≠ '.' :: tail)
    (later : groups room false rest = ((gs, mapped), rest')) :
    groups (room + 1) first (lead first (cs ++ rest)) = ((g :: gs, mapped), rest') := by
  refine groups_cons (fun _ => ?_) ?_ later
  · rw [afterColon_lead, octets_of_group group stops pointless]
  · rw [afterColon_lead, number_append group (by decide) stops]

theorem groups_append (h : IsGroups gs mapped cs) (le : gs.length ≤ room) (ends : Ends rest) :
    groups room first (lead first (cs ++ rest)) = ((gs, mapped), rest) := by
  induction h generalizing room first with
  | group group =>
      obtain ⟨room, rfl⟩ := Nat.exists_eq_succ_of_ne_zero (Nat.ne_of_gt le)
      exact groups_group group ends.stops ends.pointless (groups_of_ends ends room false)
  | mapped octets =>
      have hpos : room ≠ 0 := Nat.ne_of_gt (Nat.lt_of_succ_lt le)
      obtain ⟨room, rfl⟩ := Nat.exists_eq_succ_of_ne_zero hpos
      refine groups_mapped (Nat.ne_of_gt (Nat.lt_of_succ_le (Nat.le_of_succ_le_succ le))) ?_
      rw [afterColon_lead, octets_append octets ends.stops.decimal]
  | cons group tail ih =>
      have hpos : room ≠ 0 := Nat.ne_of_gt (Nat.lt_of_lt_of_le (Nat.succ_pos _) le)
      obtain ⟨room, rfl⟩ := Nat.exists_eq_succ_of_ne_zero hpos
      rw [List.append_assoc]
      refine groups_group group (stops_cons (by decide)) (fun _ => by simp) ?_
      exact ih (Nat.le_of_succ_le_succ le)

theorem exists_of_groups (h : groups room first cs = ((gs, mapped), rest)) :
    (gs = [] ∧ mapped = false ∧ cs = rest) ∨
      gs.length ≤ room ∧ ∃ front, cs = lead first (front ++ rest) ∧ IsGroups gs mapped front := by
  induction room generalizing first cs gs with
  | zero =>
      cases h
      exact Or.inl ⟨rfl, rfl, rfl⟩
  | succ room ih =>
      rw [groups] at h
      split at h
      · rename_i a b c d rest' hoctets
        split at hoctets
        · cases hoctets
        rename_i hpos
        obtain ⟨tail, rfl, hread⟩ := exists_of_afterColon hoctets
        obtain ⟨front, rfl, octets⟩ := exists_of_octets hread
        cases h
        exact Or.inr ⟨Nat.succ_le_succ (Nat.one_le_iff_ne_zero.mpr hpos), front, rfl, .mapped octets⟩
      · split at h
        · cases h
          exact Or.inl ⟨rfl, rfl, rfl⟩
        · rename_i g rest' hgroup
          obtain ⟨tail, rfl, hread⟩ := exists_of_afterColon hgroup
          obtain ⟨front, rfl, group⟩ := exists_of_number hread (by decide)
          cases hlater : groups room false rest' with
          | mk r rest'' =>
              obtain ⟨gs', mapped'⟩ := r
              rw [hlater] at h
              cases h
              rcases ih hlater with ⟨rfl, rfl, rfl⟩ | ⟨hle, front', rfl, tail⟩
              · exact Or.inr ⟨Nat.succ_le_succ (Nat.zero_le _), front, rfl, .group group⟩
              · refine Or.inr ⟨Nat.succ_le_succ hle, front ++ ':' :: front', ?_, .cons group tail⟩
                rw [List.append_assoc]
                rfl

theorem groups_side (h : IsSide gs mapped cs) (le : gs.length ≤ room) (ends : Ends rest) :
    groups room true (cs ++ rest) = ((gs, mapped), rest) := by
  cases h with
  | none => exact groups_of_ends ends room true
  | some groups => exact groups_append groups le ends

theorem exists_side (h : groups room true cs = ((gs, mapped), rest)) :
    gs.length ≤ room ∧ ∃ front, cs = front ++ rest ∧ IsSide gs mapped front := by
  rcases exists_of_groups h with ⟨rfl, rfl, rfl⟩ | ⟨hle, front, hcs, groups⟩
  · exact ⟨Nat.zero_le _, [], rfl, .none⟩
  · exact ⟨hle, front, hcs, .some groups⟩

theorem segments_append (h : IsSegments gs cs) (ends : Ends rest) :
    segments (cs ++ rest) = some (gs, rest) := by
  cases h with
  | @full _ mapped _ groups length =>
      have hread : (fun cs => some (SocketAddress.groups 8 true cs)) (cs ++ rest) =
          some ((gs, mapped), rest) := congrArg some (groups_append groups (Nat.le_of_eq length) ends)
      rw [segments, bind_of_some hread]
      simp only [length, if_true]
      rfl
  | @short front back mapped cs cs' before after length =>
      have hfront : (fun cs => some (groups 8 true cs)) (cs ++ ':' :: ':' :: (cs' ++ rest)) =
          some ((front, false), ':' :: ':' :: (cs' ++ rest)) :=
        congrArg some (groups_side before (by omega) .colons)
      have hback : (fun cs => some (groups (7 - front.length) true cs)) (cs' ++ rest) =
          some ((back, mapped), rest) := congrArg some (groups_side after (by omega) ends)
      have hne : front.length ≠ 8 := by omega
      rw [List.append_assoc, segments]
      refine (bind_of_some hfront).trans ?_
      simp only [hne, if_false, Bool.false_eq_true]
      rw [bind_of_some (char_cons _ _), bind_of_some (char_cons _ _), bind_of_some hback]
      rfl

theorem exists_of_segments (h : segments cs = some (gs, rest)) :
    ∃ front, cs = front ++ rest ∧ IsSegments gs front := by
  obtain ⟨⟨front, mapped⟩, rest', hfront, hread⟩ := bind_eq_some_iff.mp h
  obtain ⟨hle, cs', rfl, before⟩ := exists_side (Option.some.inj hfront)
  dsimp only at hread
  split at hread
  · rename_i height
    cases hread
    cases before with
    | none => cases height
    | some groups => exact ⟨cs', rfl, .full groups height⟩
  · rename_i hne
    split at hread
    · cases hread
    · rename_i hunmapped
      rw [Bool.not_eq_true] at hunmapped
      subst hunmapped
      simp only [bind_eq_some_iff] at hread
      obtain ⟨_, _, hfirst, _, _, hsecond, ⟨back, mapped⟩, _, hback, hread⟩ := hread
      obtain rfl := eq_of_char hfirst
      obtain rfl := eq_of_char hsecond
      obtain ⟨hle', cs'', rfl, after⟩ := exists_side (Option.some.inj hback)
      cases hread
      have hroom : front.length + back.length ≤ 7 := by
        have hback : back.length ≤ 7 - front.length := hle'
        omega
      refine ⟨_, ?_, .short before after hroom⟩
      rw [List.append_assoc]
      rfl

end Groups

/-! ## Scope, port and the whole -/

theorem scope_append (h : IsScope n cs) : scope (cs ++ ']' :: rest) = some (n, ']' :: rest) := by
  cases h with
  | none => rfl
  | some number =>
      have stops : Stops 10 (']' :: rest) := stops_cons (by decide)
      have hread := number_append number (by decide) stops
      simp only [scope, List.cons_append, bind_of_some (char_cons '%' _), hread]

theorem exists_of_scope (h : scope cs = some (n, rest)) :
    ∃ front, cs = front ++ rest ∧ IsScope n front := by
  rw [scope] at h
  split at h
  · rename_i r hread
    cases h
    obtain ⟨_, _, hmark, hnumber⟩ := bind_eq_some_iff.mp hread
    obtain rfl := eq_of_char hmark
    obtain ⟨front, rfl, number⟩ := exists_of_number hnumber (by decide)
    exact ⟨'%' :: front, rfl, .some number⟩
  · cases h
    exact ⟨[], rfl, .none⟩

theorem port_append (h : IsPort n cs) : port (':' :: cs) = some (n, []) := by
  rw [port, bind_of_some (char_cons _ _)]
  have hread := number_append h (by decide) stops_nil
  rwa [List.append_nil] at hread

theorem exists_of_port (h : port cs = some (n, rest)) :
    ∃ front, cs = ':' :: (front ++ rest) ∧ IsPort n front := by
  obtain ⟨_, _, hcolon, hread⟩ := bind_eq_some_iff.mp h
  obtain ⟨front, rfl, number⟩ := exists_of_number hread (by decide)
  exact ⟨front, eq_of_char hcolon, number⟩

theorem isText_of_scanV4 {a : SocketAddress} (h : scanV4 cs = some (a, [])) : IsText a cs := by
  simp only [scanV4, bind_eq_some_iff] at h
  obtain ⟨os, _, hoctets, n, _, hport, h⟩ := h
  cases h
  obtain ⟨front, rfl, octets⟩ := exists_of_octets hoctets
  obtain ⟨ps, rfl, port⟩ := exists_of_port hport
  rw [List.append_nil]
  exact .v4 octets port

theorem isText_of_scanV6 {a : SocketAddress} (h : scanV6 cs = some (a, [])) : IsText a cs := by
  simp only [scanV6, bind_eq_some_iff] at h
  obtain ⟨_, _, hopen, gs, _, hsegments, z, _, hscope, _, _, hclose, n, _, hport, h⟩ := h
  cases h
  obtain rfl := eq_of_char hopen
  obtain ⟨front, rfl, segments⟩ := exists_of_segments hsegments
  obtain ⟨zs, rfl, scope⟩ := exists_of_scope hscope
  obtain rfl := eq_of_char hclose
  obtain ⟨ps, rfl, port⟩ := exists_of_port hport
  rw [List.append_nil]
  exact .v6 segments scope port

private theorem IsScope.ends (h : IsScope n cs) : Ends (cs ++ ']' :: rest) := by
  cases h with
  | none => exact .bracket
  | some _ => exact .scope

private theorem scanV4_bracket (cs : List Char) : scanV4 ('[' :: cs) = none :=
  bind_of_none (octets_of_stops (stops_cons (by decide)))

theorem scanV4_of_octets {os : List Nat} {front : List Char} (octets : IsOctets os front)
    (port : IsPort n cs) : scanV4 (front ++ ':' :: cs) = some (.v4 os n, []) := by
  rw [scanV4, bind_of_some (octets_append octets (stops_cons (by decide))),
    bind_of_some (port_append port)]
  rfl

theorem scanV6_of_segments {gs : List Nat} {z : Nat} {front zs : List Char}
    (segments : IsSegments gs front) (scope : IsScope z zs) (port : IsPort n cs) :
    scanV6 ('[' :: (front ++ (zs ++ ']' :: ':' :: cs))) = some (.v6 gs z n, []) := by
  rw [scanV6, bind_of_some (char_cons _ _), bind_of_some (segments_append segments scope.ends),
    bind_of_some (scope_append scope), bind_of_some (char_cons _ _),
    bind_of_some (port_append port)]
  rfl

/-- The texts that are read are those of the grammar, and are read as what they stand for. -/
theorem parse?_eq_some_iff {s : String} {a : SocketAddress} :
    parse? s = some a ↔ IsText a s.toList := by
  rw [parse?]
  generalize s.toList = cs
  constructor
  · intro h
    split at h
    · rename_i hscan
      cases h
      exact isText_of_scanV4 hscan
    split at h
    · rename_i hscan
      cases h
      exact isText_of_scanV6 hscan
    · cases h
  · intro h
    cases h with
    | v4 octets port => rw [scanV4_of_octets octets port]
    | v6 segments scope port =>
        rw [scanV4_bracket, scanV6_of_segments segments scope port]

example : parse? "[1::2.3.4.5%7]:080" = some (.v6 [1, 0, 0, 0, 0, 0, 515, 1029] 7 80) := by decide

end Matchmaking.Net.SocketAddress
