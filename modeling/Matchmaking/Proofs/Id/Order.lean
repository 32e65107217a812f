import Mathlib.Data.List.Perm.Basic
import Mathlib.Data.Set.List
import Matchmaking.Proofs.Id.Spelling

/-!
# The order of identifiers

Identifiers are ordered by value, their texts byte by byte, and the two orders are one: a text has a
fixed count of digits, the most significant first, in characters that ascend with the digits, and
what stands before or between the digits is the same in every text.
-/

namespace Matchmaking

open Number Text

section Lists

variable {α β : Type} [Ord α] [Ord β] {xs ys zs ws : List α}

theorem compare_append (length : xs.length = ys.length) :
    compare (xs ++ zs) (ys ++ ws) = (compare xs ys).then (compare zs ws) := by
  induction xs generalizing ys with
  | nil =>
      rw [List.eq_nil_of_length_eq_zero length.symm, List.compare_nil_nil]
      rfl
  | cons x xs ih =>
      cases ys with
      | nil => cases length
      | cons y ys =>
          rw [List.cons_append, List.cons_append, List.compare_cons_cons, List.compare_cons_cons,
            ih (Nat.succ.inj length), Ordering.then_assoc]

/-- What two lists begin with alike does not tell them apart. -/
theorem compare_append_left [Std.ReflOrd α] (xs zs ws : List α) :
    compare (xs ++ zs) (xs ++ ws) = compare zs ws := by
  have hsame : compare xs xs = .eq := Std.ReflCmp.compare_self
  rw [compare_append rfl, hsame, Ordering.eq_then]

theorem compare_append_cons [Std.ReflOrd α] (mark : α) (length : xs.length = ys.length) :
    compare (xs ++ mark :: zs) (ys ++ mark :: ws) = (compare xs ys).then (compare zs ws) := by
  rw [compare_append length]
  exact congrArg _ (compare_append_left [mark] zs ws)

/-- Lists of one length are told apart from a place on by some items and then by the others. -/
theorem compare_drop (start size : Nat) (length : xs.length = ys.length) :
    compare (xs.drop start) (ys.drop start) =
      (compare ((xs.drop start).take size) ((ys.drop start).take size)).then
        (compare (xs.drop (start + size)) (ys.drop (start + size))) := by
  rw [← List.drop_drop, ← List.drop_drop, ← compare_append (by simp [length]),
    List.take_append_drop, List.take_append_drop]

theorem compare_map {f : α → β}
    (ascending : ∀ x ∈ xs, ∀ y ∈ ys, compare (f x) (f y) = compare x y) :
    compare (xs.map f) (ys.map f) = compare xs ys := by
  induction xs generalizing ys with
  | nil => cases ys <;> rfl
  | cons x xs ih =>
      cases ys with
      | nil => rfl
      | cons y ys =>
          have htail : compare (xs.map f) (ys.map f) = compare xs ys := ih fun x hx y hy =>
            ascending x (List.mem_cons_of_mem _ hx) y (List.mem_cons_of_mem _ hy)
          rw [List.map_cons, List.map_cons, List.compare_cons_cons, List.compare_cons_cons, htail,
            ascending x List.mem_cons_self y List.mem_cons_self]

end Lists

/-! ## Digits -/

namespace Number

variable {base count a b : Nat}

/-- The last digit decides between numbers that agree in the others. -/
theorem compare_div_mod (base a b : Nat) :
    compare a b = (compare (a / base) (b / base)).then (compare (a % base) (b % base)) := by
  rcases Nat.lt_trichotomy (a / base) (b / base) with hlt | heq | hgt
  · rw [Nat.compare_eq_lt.mpr hlt, Nat.compare_eq_lt.mpr (Nat.lt_of_div_lt_div hlt)]
    rfl
  · have hsum (n r r' : Nat) : compare (n + r) (n + r') = compare r r' := by
      simp only [Nat.compare_eq_ite_lt, Nat.add_lt_add_iff_left]
    have hb := Nat.div_add_mod b base
    rw [← heq] at hb
    rw [Nat.compare_eq_eq.mpr heq, Ordering.eq_then, ← hsum (base * (a / base)) (a % base),
      Nat.div_add_mod, hb]
  · rw [Nat.compare_eq_gt.mpr hgt, Nat.compare_eq_gt.mpr (Nat.lt_of_div_lt_div hgt)]
    rfl

/-- Numbers with enough digits are ordered as their digits. -/
theorem compare_toDigits (ha : a < Nat.pow base count) (hb : b < Nat.pow base count) :
    compare (toDigits base count a) (toDigits base count b) = compare a b := by
  induction count generalizing a b with
  | zero =>
      rw [Nat.lt_one_iff.mp ha, Nat.lt_one_iff.mp hb]
      rfl
  | succ count ih =>
      have hsingle (x y : Nat) : compare [x] [y] = compare x y := by
        rw [List.compare_cons_cons, List.compare_nil_nil, Ordering.then_eq]
      rw [toDigits, toDigits, compare_append (by rw [length_toDigits, length_toDigits]), hsingle,
        ih (Nat.div_lt_of_lt_mul (Nat.mul_comm base _ ▸ ha))
          (Nat.div_lt_of_lt_mul (Nat.mul_comm base _ ▸ hb)), ← compare_div_mod]

/-- Characters that ascend with the digits are ordered as the numbers are. -/
theorem compare_asciiBytes_digits {write : Nat → Char} (hbase : 0 < base)
    (ascending : ∀ d < base, ∀ e < base,
      compare (UInt8.ofNat (write d).toNat) (UInt8.ofNat (write e).toNat) = compare d e)
    (ha : a < Nat.pow base count) (hb : b < Nat.pow base count) :
    compare (asciiBytes ((toDigits base count a).map write))
      (asciiBytes ((toDigits base count b).map write)) = compare a b := by
  rw [asciiBytes, asciiBytes, List.map_map, List.map_map, ← compare_toDigits ha hb]
  apply compare_map
  intro d hd e he
  exact ascending d (lt_of_mem_toDigits hbase hd) e (lt_of_mem_toDigits hbase he)

end Number

/-- Texts are ordered byte by byte. -/
def Text.compareBytes (s t : String) : Ordering := compare (bytes s) (bytes t)

theorem Text.compareBytes_total (s t : String) :
    ((compareBytes s t).isLE || (compareBytes t s).isLE) = true := by
  rw [compareBytes, compareBytes, Std.OrientedOrd.eq_swap (a := bytes t)]
  cases compare (bytes s) (bytes t) <;> rfl

/-! ## Matches and messages -/

namespace Ulid

theorem millis_assemble (time random : Nat) :
    millis (assemble time random) = time % Nat.pow 2 48 := by
  simp only [millis, assemble, BitVec.toNat_ofNat, Nat.reducePow, Nat.pow_eq]
  omega

private theorem charOfDigit_ascends : ∀ d < 32, ∀ e < 32,
    compare (UInt8.ofNat (charOfDigit d).toNat) (UInt8.ofNat (charOfDigit e).toNat) =
      compare d e := by
  decide +kernel

theorem compareBytes_encode (a b : BitVec 128) :
    compareBytes (encode a) (encode b) = compare a.toNat b.toNat := by
  have hlt (value : BitVec 128) : value.toNat < Nat.pow 32 textLength :=
    Nat.lt_trans value.isLt (by decide)
  rw [compareBytes, encode, encode, bytes_of_ascii (ascii_digits a),
    bytes_of_ascii (ascii_digits b)]
  exact compare_asciiBytes_digits (by decide) charOfDigit_ascends (hlt a) (hlt b)

end Ulid

namespace Id

variable {kind : IdKind}

theorem compare_eq (a b : Id kind) : a.compare b = compareBytes a.text b.text := by
  rw [compare, ← Ulid.compareBytes_encode, compareBytes, compareBytes, text, text, bytes_append,
    bytes_append _ (Ulid.encode b.value), compare_append_left]

/-- The earlier identifier is the lesser one. -/
theorem compare_of_millis_lt {a b : Id kind}
    (h : Ulid.millis a.value < Ulid.millis b.value) : a.compare b = .lt :=
  Nat.compare_eq_lt.mpr (Nat.lt_of_div_lt_div h)

theorem compare_mint {time time' : Nat} (h : time % Nat.pow 2 48 < time' % Nat.pow 2 48)
    (random random' : Nat) : (mint kind time random).compare (mint kind time' random') = .lt := by
  apply compare_of_millis_lt
  rwa [mint, mint, Ulid.millis_assemble, Ulid.millis_assemble]

end Id

/-! ## Players -/

namespace Uuid

/-- The bytes of a value, the most significant first. -/
def octets (value : BitVec 128) : List Nat := toDigits 256 16 value.toNat

theorem compare_octets (a b : BitVec 128) :
    compare (octets a) (octets b) = compare a.toNat b.toNat := by
  have hlt (value : BitVec 128) : value.toNat < Nat.pow 256 16 :=
    Nat.lt_of_lt_of_eq value.isLt (by decide)
  exact compare_toDigits (hlt a) (hlt b)

/-- The hyphens do not tell digits apart. -/
theorem compare_hyphenate {cs ds : List Char} (length : cs.length = ds.length) :
    compare (asciiBytes (hyphenate cs)) (asciiBytes (hyphenate ds)) =
      compare (asciiBytes cs) (asciiBytes ds) := by
  have hlength : (asciiBytes cs).length = (asciiBytes ds).length := by simp [length]
  have hparts := compare_drop 0 8 hlength
  rw [compare_drop 8 4 hlength, compare_drop 12 4 hlength, compare_drop 16 4 hlength] at hparts
  simp only [asciiBytes_hyphenate, asciiBytes_take, asciiBytes_drop]
  rw [compare_append_cons _ (by simp [length]), compare_append_cons _ (by simp [length]),
    compare_append_cons _ (by simp [length]), compare_append_cons _ (by simp [length])]
  exact hparts.symm

private theorem charOfNibble_ascends : ∀ d < 16, ∀ e < 16,
    compare (UInt8.ofNat (charOfNibble d).toNat) (UInt8.ofNat (charOfNibble e).toNat) =
      compare d e := by
  decide +kernel

theorem compareBytes_encode (a b : BitVec 128) :
    compareBytes (encode a) (encode b) = compare a.toNat b.toNat := by
  have hascii (value : BitVec 128) :
      bytes (encode value) = asciiBytes (hyphenate (nibbles value)) := by
    rw [encode_eq, bytes_of_ascii (Spelling.hyphenated.ascii (nibbles_isDigits value))]
  have hlt (value : BitVec 128) : value.toNat < Nat.pow 16 32 :=
    Nat.lt_of_lt_of_eq value.isLt (by decide)
  rw [compareBytes, hascii, hascii, compare_hyphenate (by rw [(nibbles_isDigits a).length,
    (nibbles_isDigits b).length])]
  exact compare_asciiBytes_digits (by decide) charOfNibble_ascends (hlt a) (hlt b)

end Uuid

theorem PlayerId.compare_eq (a b : PlayerId) : a.compare b = compareBytes a.text b.text :=
  (Uuid.compareBytes_encode a.value b.value).symm

/-! ## Sorting -/

section Sorting

variable {α : Type} (parse : String → Except IdError α) (text : α → String)
  (compare : α → α → Ordering)

/-- The same texts, in the order of what they are read as. -/
structure SortedByValue (texts out : List String) : Prop where
  perm : out.Perm texts
  ordered : out.Pairwise fun s t =>
    ∀ a b, parse s = .ok a → parse t = .ok b → (compare a b).isLE

/-- Values are ordered as their texts are, alone and in lists of texts that are read as values. -/
structure OrderedAsText : Prop where
  agree : ∀ a b, compare a b = compareBytes (text a) (text b)
  sortable : ∀ texts, ∃ out, SortedByValue parse compare texts out
  sorted : ∀ (texts out : List String) (values : List α), texts.map parse = values.map .ok →
    SortedByValue parse compare texts out →
      ∃ order : List α, out.map parse = order.map .ok ∧ order.Perm values ∧
        (order.map text).Pairwise fun s t => (compareBytes s t).isLE

variable {parse text compare}

private def canonical (parse : String → Except IdError α) (text : α → String) (s : String) :
    String :=
  match parse s with
  | .ok a => text a
  | .error _ => ""

theorem exists_sortedByValue (agree : ∀ a b, compare a b = compareBytes (text a) (text b))
    (texts : List String) : ∃ out, SortedByValue parse compare texts out := by
  have hsorted := @List.pairwise_mergeSort String
    (fun s t => (compareBytes (canonical parse text s) (canonical parse text t)).isLE)
    (fun _ _ _ => Std.TransOrd.isLE_trans) (fun _ _ => compareBytes_total _ _) texts
  refine ⟨_, List.mergeSort_perm texts _, hsorted.imp ?_⟩
  intro s t h a b ha hb
  simp only [canonical, ha, hb] at h
  rw [agree]
  exact h

theorem orderedAsText_of_agree (agree : ∀ a b, compare a b = compareBytes (text a) (text b)) :
    OrderedAsText parse text compare where
  agree := agree
  sortable := exists_sortedByValue agree
  sorted := by
    intro texts out values read sorting
    have hperm : (out.map parse).Perm (values.map .ok) := read ▸ sorting.perm.map parse
    have hok : ∀ x ∈ out.map parse, x ∈ Set.range Except.ok := by
      intro x hx
      obtain ⟨a, -, rfl⟩ := List.mem_map.mp (hperm.mem_iff.mp hx)
      exact Set.mem_range_self a
    obtain ⟨order, horder⟩ : out.map parse ∈ Set.range (List.map Except.ok) := by
      rwa [Set.range_list_map]
    refine ⟨order, horder.symm, ?_, ?_⟩
    · rw [← horder] at hperm
      exact (List.map_perm_map_iff fun _ _ => Except.ok.inj).mp hperm
    · have hvalues : (out.map parse).Pairwise fun x y =>
          ∀ a b, x = .ok a → y = .ok b → (compare a b).isLE :=
        List.pairwise_map.mpr sorting.ordered
      rw [← horder, List.pairwise_map] at hvalues
      rw [List.pairwise_map]
      apply hvalues.imp
      intro a b h
      rw [← agree]
      exact h a b rfl rfl

end Sorting

/-- Identifiers of one type are ordered as their texts, and by time first where they have one. -/
theorem ids_ordered_as_texts :
    (∀ kind, OrderedAsText (@Id.parse kind) Id.text Id.compare) ∧
    (∀ kind, ∀ a b : Id kind, Ulid.millis a.value < Ulid.millis b.value → a.compare b = .lt) ∧
    (∀ kind time random time' random', time % Nat.pow 2 48 < time' % Nat.pow 2 48 →
      (Id.mint kind time random).compare (Id.mint kind time' random') = .lt) ∧
    OrderedAsText PlayerId.parse PlayerId.text PlayerId.compare ∧
    ∀ a b : PlayerId, a.compare b = compare (Uuid.octets a.value) (Uuid.octets b.value) := by
  refine ⟨fun kind => orderedAsText_of_agree Id.compare_eq, ?_, ?_,
    orderedAsText_of_agree PlayerId.compare_eq, ?_⟩
  · intro kind a b
    exact Id.compare_of_millis_lt
  · intro kind time random time' random' h
    exact Id.compare_mint h random random'
  · intro a b
    exact (Uuid.compare_octets a.value b.value).symm

private def trialEarly : String := "match_0000000000000000000000000h"

private def trialLate : String := "match_0000000000000000000000000J"

private theorem trial_values :
    [trialLate, trialEarly].map (@Id.parse .game) = [⟨18⟩, ⟨17⟩].map .ok := by decide +kernel

private theorem trial_sorted :
    SortedByValue Id.parse (@Id.compare .game) [trialLate, trialEarly] [trialEarly, trialLate] := by
  obtain ⟨hlate, hearly⟩ := List.cons.inj trial_values
  refine ⟨List.Perm.swap _ _ _, List.pairwise_pair.mpr ?_⟩
  intro a b ha hb
  rw [(List.cons.inj hearly).1, Except.ok.injEq] at ha
  rw [hlate, Except.ok.injEq] at hb
  subst ha hb
  decide

/-- A small letter stands after all capital ones, but not in the text of what is read. -/
theorem trial_order : compareBytes trialLate trialEarly = .lt ∧
    (∃ order : List MatchId, [trialEarly, trialLate].map Id.parse = order.map .ok ∧
      (order.map Id.text).Pairwise fun s t => (compareBytes s t).isLE) ∧
    (Id.mint .message 1 (Nat.pow 2 80 - 1)).compare (Id.mint .message 2 0) = .lt := by
  obtain ⟨hordered, -, hminted, -, -⟩ := ids_ordered_as_texts
  obtain ⟨order, hread, -, hpairwise⟩ :=
    (hordered .game).sorted _ _ _ trial_values trial_sorted
  exact ⟨by decide +kernel, ⟨order, hread, hpairwise⟩, hminted _ _ _ _ _ (by decide)⟩

end Matchmaking
