import Matchmaking.Json.Value
import Matchmaking.Proofs.Json.Number
import Matchmaking.Proofs.Json.Record
import Matchmaking.Proofs.Text.Numeral

/-!
# Reading back what is written

The text of a value is of the form, and readers find in it what was written.
-/

namespace Matchmaking.Json

open Matchmaking.Text

def Value.bytes (v : Value) : List UInt8 := Text.bytes v.render

theorem Value.bytes_eq (v : Value) : v.bytes = v.chars.flatMap String.utf8EncodeChar :=
  bytes_ofList v.chars

/-! ## Texts -/

section Texts

variable {c : Char} {body : List UInt8} {cs : List Char} {s : String}

private theorem isUnit_of_control : ∀ n < 0x20, ∃ a b c d : UInt8,
    (['\\', 'u', '0', '0'] ++ (if n < 0x10 then ['0'] else []) ++ hexDigits n).flatMap
      String.utf8EncodeChar = [0x5C, 0x75, a, b, c, d] ∧ hexUnit? [a, b, c, d] = some n := by
  intro n hn
  have hall : ∀ n < 0x20, hexUnit? [0x30, 0x30, UInt8.ofNat (0x30 + n / 16),
      (if n % 16 < 10 then UInt8.ofNat (0x30 + n % 16) else UInt8.ofNat (0x57 + n % 16))] = some n ∧
      (['\\', 'u', '0', '0'] ++ (if n < 0x10 then ['0'] else []) ++ hexDigits n).flatMap
        String.utf8EncodeChar = [0x5C, 0x75, 0x30, 0x30, UInt8.ofNat (0x30 + n / 16),
      (if n % 16 < 10 then UInt8.ofNat (0x30 + n % 16) else UInt8.ofNat (0x57 + n % 16))] := by
    decide
  exact ⟨_, _, _, _, (hall n hn).2, (hall n hn).1⟩

theorem spells_escapeChar (tail : Spells body cs) :
    Spells ((escapeChar c).flatMap String.utf8EncodeChar ++ body) (c :: cs) := by
  have hshort : ∀ b e : UInt8, escapedByte? b = some e → c = Char.ofNat e.toNat →
      Spells (0x5C :: b :: body) (c :: cs) := by
    rintro b e hescaped rfl
    exact .escape hescaped tail
  unfold escapeChar
  split
  · rename_i h
    exact hshort 0x22 0x22 rfl h
  rename_i hquote
  split
  · rename_i h
    exact hshort 0x5C 0x5C rfl h
  rename_i hbackslash
  split
  · rename_i h
    exact hshort 0x62 0x08 rfl h
  split
  · rename_i h
    exact hshort 0x66 0x0C rfl h
  split
  · rename_i h
    exact hshort 0x6E 0x0A rfl h
  split
  · rename_i h
    exact hshort 0x72 0x0D rfl h
  split
  · rename_i h
    exact hshort 0x74 0x09 rfl h
  by_cases hcontrol : c.toNat < 0x20
  · obtain ⟨w, x, y, z, hbytes, hunit⟩ := isUnit_of_control c.toNat hcontrol
    have hlead : isLead c.toNat = false := by
      simp only [isLead, Bool.and_eq_false_iff, decide_eq_false_iff_not]
      omega
    have htrail : isTrail c.toNat = false := by
      simp only [isTrail, Bool.and_eq_false_iff, decide_eq_false_iff_not]
      omega
    have hspells := Spells.unit (.digits hunit) hlead htrail tail
    rw [Char.ofNat_toNat] at hspells
    rw [if_pos hcontrol, hbytes]
    exact hspells
  · rw [if_neg hcontrol, List.flatMap_singleton]
    exact .plain ⟨hquote, hbackslash, Nat.le_of_not_lt hcontrol⟩ tail

def escaped (s : String) : List UInt8 := (s.toList.flatMap escapeChar).flatMap String.utf8EncodeChar

theorem spells_escaped (s : String) : Spells (escaped s) s.toList := by
  rw [escaped]
  induction s.toList with
  | nil => exact .nil
  | cons c cs ih =>
      rw [List.flatMap_cons, List.flatMap_append]
      exact spells_escapeChar ih

theorem flatMap_textChars (s : String) :
    (textChars s).flatMap String.utf8EncodeChar = quote (escaped s) := by
  have hquote : String.utf8EncodeChar '"' = [0x22] := by decide
  simp [textChars, quote, escaped, hquote]

theorem Value.bytes_text (s : String) : (Value.text s).bytes = quote (escaped s) := by
  rw [bytes_eq, chars, flatMap_textChars]

end Texts

/-! ## Integers -/

section Integers

variable {n : Nat} {k : Int}

def digitBytes (n : Nat) : List UInt8 := (digits n).flatMap String.utf8EncodeChar

private theorem digitBytes_eq (n : Nat) :
    digitBytes n = asciiBytes (digits n) := by
  have hascii : ∀ c ∈ digits n, c.toNat < 0x80 := fun c hc =>
    Nat.lt_of_le_of_lt (toNat_of_isDigit ((digits_isNumeral n).digits c hc)).2 (by decide)
  rw [digitBytes, ← bytes_ofList, bytes_of_ascii hascii]

private theorem toNat_digitByte {c : Char} (h : c.isDigit = true) :
    (UInt8.ofNat c.toNat).toNat = c.toNat := by
  have hrange := toNat_of_isDigit h
  rw [UInt8.toNat_ofNat', Nat.mod_eq_of_lt (by omega)]

theorem digitBytes_isWhole (n : Nat) : IsWhole (digitBytes n) := by
  have hnumeral := digits_isNumeral n
  rw [digitBytes_eq]
  refine ⟨fun d hd => ?_, List.map_eq_nil_iff.not.mpr hnumeral.ne_nil, fun hzero => ?_⟩
  · obtain ⟨c, hc, rfl⟩ := List.mem_map.mp hd
    have hdigit := hnumeral.digits c hc
    have hrange := toNat_of_isDigit hdigit
    simp only [isDigit, Bool.and_eq_true, decide_eq_true_eq, UInt8.le_iff_toNat_le,
      toNat_digitByte hdigit, UInt8.reduceToNat]
    omega
  · have hhead : (digits n).head? = some '0' := by
      obtain ⟨c, cs, hcs⟩ := List.exists_cons_of_ne_nil hnumeral.ne_nil
      have hdigit := hnumeral.digits c (by rw [hcs]; exact List.mem_cons_self)
      rw [hcs, asciiBytes, List.map_cons, List.head?_cons, Option.some.injEq, ← UInt8.toNat_inj,
        toNat_digitByte hdigit] at hzero
      have hc : c = '0' := Char.toNat_inj.mp hzero
      rw [hcs, List.head?_cons, hc]
    rw [digits_of_head? hhead]
    rfl

private theorem decimal_map {cs : List Char} (h : ∀ c ∈ cs, c.isDigit = true) (m : Nat) :
    decimal m (asciiBytes cs) = Nat.ofDigitChars 10 cs m := by
  induction cs generalizing m with
  | nil => exact Nat.ofDigitChars_nil.symm
  | cons c cs ih =>
      have hdigit : digitOf (UInt8.ofNat c.toNat) = c.toNat - '0'.toNat := by
        rw [digitOf, toNat_digitByte (h c List.mem_cons_self)]
        rfl
      rw [Nat.ofDigitChars_cons, ← ih fun d hd => h d (List.mem_cons_of_mem c hd), Nat.mul_comm,
        ← hdigit]
      rfl

theorem decimal_digitBytes (n : Nat) : decimal 0 (digitBytes n) = n := by
  have hnumeral := digits_isNumeral n
  rw [digitBytes_eq, decimal_map hnumeral.digits, hnumeral.value]

theorem Value.bytes_integer (k : Int) : (Value.integer k).bytes =
    signBytes (decide (k < 0)) ++ digitBytes k.natAbs := by
  have hminus : String.utf8EncodeChar '-' = [0x2D] := by decide
  rw [bytes_eq, chars, integerChars]
  split
  · rename_i hneg
    simp [signBytes, hneg, hminus, digitBytes]
  · rename_i hneg
    simp [signBytes, hneg, digitBytes]

/-- An integer of 64 bits is written as a number that is kept as one. -/
theorem exists_isNumber_integer
    (bounds : -(Number.mostSigned64 : Int) - 1 ≤ k ∧ k ≤ Number.mostUnsigned64) :
    ∃ t, IsNumber t (Value.integer k).bytes ∧ t.value = .ok (.integer k) := by
  refine ⟨_, (Value.bytes_integer k).symm ▸ (digitBytes_isWhole k.natAbs).isNumber _, ?_⟩
  have hdecimal := decimal_digitBytes k.natAbs
  by_cases hneg : k < 0
  · have hfits : Fits true (decimal 0 (digitBytes k.natAbs)) := by
      rw [hdecimal]
      exact ⟨by omega, by omega⟩
    rw [decide_eq_true hneg, value_of_fits hfits, hdecimal, if_pos rfl,
      Int.ofNat_natAbs_of_nonpos (Int.le_of_lt hneg), Int.neg_neg]
  · have hfits : Fits false (decimal 0 (digitBytes k.natAbs)) := by
      rw [hdecimal]
      show k.natAbs ≤ Number.mostUnsigned64
      omega
    rw [decide_eq_false hneg, value_of_fits hfits, hdecimal, if_neg Bool.false_ne_true,
      Int.natAbs_of_nonneg (Int.not_lt.mp hneg)]

end Integers

/-! ## Containers -/

section Containers

def Value.part (v : Value) : Part := ⟨[], v.bytes, []⟩

def Value.member (p : String × Value) : Member :=
  { p.2.part with lead := [], label := escaped p.1, name := p.1, gap := [] }

theorem part_bytes (v : Value) : v.part.bytes = v.bytes := List.append_nil _

private theorem flatMap_itemChars (items : List Value) :
    (Value.itemChars items).flatMap String.utf8EncodeChar =
      separated ((items.map Value.part).map Part.bytes) := by
  have hcomma : String.utf8EncodeChar ',' = [0x2C] := by decide
  induction items with
  | nil => rfl
  | cons v items ih =>
      cases items with
      | nil =>
          rw [Value.itemChars, ← Value.bytes_eq]
          simp [separated, part_bytes]
      | cons w items =>
          rw [Value.itemChars, List.flatMap_append, List.flatMap_cons, ih, ← Value.bytes_eq, hcomma]
          simp [separated, part_bytes]

private theorem flatMap_memberChars (ms : List (String × Value)) :
    (Value.memberChars ms).flatMap String.utf8EncodeChar =
      separated ((ms.map Value.member).map Member.bytes) := by
  have hcomma : String.utf8EncodeChar ',' = [0x2C] := by decide
  have hcolon : String.utf8EncodeChar ':' = [0x3A] := by decide
  have hone : ∀ name v, (textChars name ++ ':' :: v.chars).flatMap String.utf8EncodeChar =
      (Value.member (name, v)).bytes := by
    intro name v
    rw [List.flatMap_append, flatMap_textChars, List.flatMap_cons, hcolon, ← Value.bytes_eq]
    simp [Value.member, Member.bytes, Value.part, Part.bytes]
  induction ms with
  | nil => rfl
  | cons p ms ih =>
      obtain ⟨name, v⟩ := p
      cases ms with
      | nil =>
          rw [Value.memberChars, hone]
          simp [separated]
      | cons q ms =>
          rw [Value.memberChars, List.flatMap_append, hone, List.flatMap_cons, ih, hcomma]
          simp [separated]

def listText (items : List Value) (values : ∀ v ∈ items, IsValue v.bytes) : ListText where
  lead := []
  parts := items.map Value.part
  blank := blank_nil
  spaced := List.forall_mem_map.mpr fun _ _ => ⟨blank_nil, blank_nil⟩
  values := List.forall_mem_map.mpr values

def objectText (ms : List (String × Value)) (values : ∀ p ∈ ms, IsValue p.2.bytes) :
    ObjectText where
  lead := []
  members := ms.map Value.member
  blank := blank_nil
  spaced := List.forall_mem_map.mpr fun _ _ => ⟨⟨blank_nil, blank_nil⟩, blank_nil, blank_nil⟩
  named := List.forall_mem_map.mpr fun p _ => spells_escaped p.1
  values := List.forall_mem_map.mpr values

theorem bytes_listText {items : List Value} (values : ∀ v ∈ items, IsValue v.bytes) :
    (listText items values).bytes = (Value.list items).bytes := by
  have hopen : String.utf8EncodeChar '[' = [0x5B] := by decide
  have hclose : String.utf8EncodeChar ']' = [0x5D] := by decide
  rw [Value.bytes_eq, Value.chars, List.cons_append, List.flatMap_cons, List.flatMap_append,
    flatMap_itemChars, hopen]
  simp [ListText.bytes, listText, listBytes, hclose]

theorem bytes_objectText {ms : List (String × Value)} (values : ∀ p ∈ ms, IsValue p.2.bytes) :
    (objectText ms values).bytes = (Value.object ms).bytes := by
  have hopen : String.utf8EncodeChar '\x7b' = [0x7B] := by decide
  have hclose : String.utf8EncodeChar '\x7d' = [0x7D] := by decide
  rw [Value.bytes_eq, Value.chars, List.cons_append, List.flatMap_cons, List.flatMap_append,
    flatMap_memberChars, hopen]
  simp [ObjectText.bytes, objectText, objectBytes, hclose]

end Containers

/-! ## What is read back -/

section Carries

variable {α : Type} {read : Reader α} {encode : α → Value} {v : Value} {a : α}

/-- The text of a value is of the form, and what a reader finds in it. -/
structure Carries (read : Reader α) (v : Value) (a : α) : Prop where
  isValue : IsValue v.bytes
  ne_null : v.bytes ≠ nullBytes
  reads : read.Reads v.bytes a

/-- Whatever is written is read back. -/
def Faithful (encode : α → Value) (read : Reader α) : Prop := ∀ a, Carries read (encode a) a

theorem carries_text (expected s : String) : Carries (Reader.textFor expected) (.text s) s where
  isValue := by
    rw [Value.bytes_text]
    exact .text (spells_escaped s).isTextBody
  ne_null h := by
    rw [Value.bytes_text] at h
    exact absurd (List.cons.inj h).1 (by decide)
  reads := by
    have hreads : (Reader.textFor expected).Reads (quote _) (String.ofList s.toList) :=
      Reader.reads_textFor (spells_escaped s)
    rwa [String.ofList_toList, ← Value.bytes_text] at hreads

theorem text_faithful : Faithful .text Reader.text := carries_text "a string"

theorem Carries.named {expected s : String} {parse : String → Except String α}
    (h : parse s = .ok a) : Carries (Reader.named expected parse) (.text s) a where
  isValue := (carries_text expected s).isValue
  ne_null := (carries_text expected s).ne_null
  reads := (carries_text expected s).reads.named h

theorem flag_faithful : Faithful .flag Reader.flag := by
  intro b
  have hbytes : (Value.flag b).bytes = flagBytes b := by
    rw [Value.bytes_eq]
    cases b <;> decide
  refine ⟨?_, ?_, ?_⟩
  · rw [hbytes]
    exact .flag b
  · rw [hbytes]
    cases b <;> decide
  · rw [hbytes]
    exact Reader.reads_flag b

theorem carries_integer {k : Int}
    (bounds : -(Number.mostSigned64 : Int) - 1 ≤ k ∧ k ≤ Number.mostUnsigned64)
    (reads : IsValue (Value.integer k).bytes →
      (∃ t, IsNumber t (Value.integer k).bytes ∧ t.value = .ok (.integer k)) →
        read.Reads (Value.integer k).bytes a) : Carries read (.integer k) a where
  isValue := by
    obtain ⟨t, number, _⟩ := exists_isNumber_integer bounds
    exact .number number
  ne_null h := by
    obtain ⟨t, number, _⟩ := exists_isNumber_integer bounds
    obtain ⟨b, tail, hcons, hb⟩ := number.exists_cons
    rw [h] at hcons
    cases hcons
    exact absurd hb (by decide)
  reads := by
    obtain ⟨t, number, kept⟩ := exists_isNumber_integer bounds
    exact reads (.number number) ⟨t, number, kept⟩

theorem uint16_faithful : Faithful (fun n : UInt16 => .integer n.toNat) Reader.uint16 := by
  intro n
  have hlt : n.toNat < 65536 := n.toNat_lt
  refine carries_integer ?_ fun value => (Reader.reads_uint16_iff value).mpr
  simp only [Number.mostSigned64, Number.mostUnsigned64]
  omega

theorem int32_faithful : Faithful (fun n : Int32 => .integer n.toInt) Reader.int32 := by
  intro n
  have hlt := n.toInt_lt
  have hge := n.le_toInt
  refine carries_integer ?_ fun value => (Reader.reads_int32_iff value).mpr
  simp only [Number.mostSigned64, Number.mostUnsigned64]
  omega

theorem int64_faithful : Faithful (fun n : Int64 => .integer n.toInt) Reader.int64 := by
  intro n
  have hlt := n.toInt_lt
  have hge := n.le_toInt
  refine carries_integer ?_ fun value => (Reader.reads_int64_iff value).mpr
  simp only [Number.mostSigned64, Number.mostUnsigned64]
  omega

/-- A list carries what its items carry. -/
theorem Carries.list {vs : List Value} {as : List α} (h : List.Forall₂ (Carries read) vs as)
    (decides : read.Decides) : Carries (Reader.list read) (.list vs) as := by
  have values : ∀ v ∈ vs, IsValue v.bytes := by
    have hboth : List.Forall₂ (fun v a => IsValue v.bytes ∧ Carries read v a) vs as :=
      h.imp fun v a hcarries => ⟨hcarries.isValue, hcarries⟩
    exact (List.forall₂_and_left _ _).mp hboth |>.1
  refine ⟨?_, ?_, ?_⟩
  · rw [← bytes_listText values]
    exact ListText.isValue _
  · rw [← bytes_listText values]
    exact ListText.ne_null _
  · rw [← bytes_listText values, Reader.reads_list_iff decides]
    show List.Forall₂ _ (vs.map Value.part) as
    rw [List.forall₂_map_left_iff]
    exact h.imp fun v a hcarries => hcarries.reads

theorem Faithful.list (h : Faithful encode read) (decides : read.Decides) :
    Faithful (Value.ofList encode) (Reader.list read) := by
  intro as
  refine Carries.list ?_ decides
  rw [List.forall₂_map_left_iff]
  exact List.forall₂_same.mpr fun a _ => h a

/-- An object carries what its members tell. -/
theorem Carries.object {ms : List (String × Value)} (values : ∀ p ∈ ms, IsValue p.2.bytes)
    (reads : ∀ o : ObjectText, o.members = ms.map Value.member → read.Reads o.bytes a) :
    Carries read (.object ms) a where
  isValue := bytes_objectText values ▸ ObjectText.isValue _
  ne_null := bytes_objectText values ▸ ObjectText.ne_null _
  reads := bytes_objectText values ▸ reads (objectText ms values) rfl

theorem Carries.run (h : Carries read v a) : read.run v.bytes = .ok a := h.reads.run

theorem membersNamed_map {ms found : List (String × Value)} {name : String}
    (h : ms.filter (fun p => p.1 = name) = found) :
    membersNamed name (ms.map Value.member) = found.map Value.member := by
  rw [membersNamed, List.filter_map]
  exact congrArg (List.map Value.member) h

/-- A member that is written tells what its value carries. -/
theorem Carries.tells {ms : List (String × Value)} {name : String} (h : Carries read v a)
    (found : ms.filter (fun p => p.1 = name) = [(name, v)]) :
    Tells (ms.map Value.member) name read a :=
  ⟨Value.member (name, v), membersNamed_map found, h.run⟩

theorem Carries.mayTell {ms : List (String × Value)} {name : String} (h : Carries read v a)
    (found : ms.filter (fun p => p.1 = name) = [(name, v)]) :
    MayTell (ms.map Value.member) name read (some a) :=
  Or.inr ⟨Value.member (name, v), membersNamed_map found, Or.inr ⟨h.ne_null, a, rfl, h.run⟩⟩

theorem Faithful.mayTell {ms : List (String × Value)} {name : String} {o : Option α}
    (h : Faithful encode read)
    (found : ms.filter (fun p => p.1 = name) = Value.optional name encode o) :
    MayTell (ms.map Value.member) name read o := by
  cases o with
  | none => exact Or.inl ⟨membersNamed_map found, rfl⟩
  | some a => exact (h a).mayTell found

theorem Faithful.optional_isValue (h : Faithful encode read) (name : String) (o : Option α) :
    ∀ p ∈ Value.optional name encode o, IsValue p.2.bytes := by
  cases o with
  | none => exact fun p hp => nomatch hp
  | some a => exact List.forall_mem_singleton.mpr (h a).isValue

theorem filter_optional_self {name : String} {o : Option α} :
    (Value.optional name encode o).filter (fun p => p.1 = name) = Value.optional name encode o := by
  cases o <;> simp [Value.optional]

theorem filter_optional_of_ne {name other : String} {o : Option α} (h : name ≠ other) :
    (Value.optional name encode o).filter (fun p => p.1 = other) = [] := by
  cases o <;> simp [Value.optional, h]

end Carries

end Matchmaking.Json
