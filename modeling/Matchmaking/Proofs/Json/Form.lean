import Mathlib.Data.List.Basic
import Mathlib.Tactic.MkIffOfInductiveProp
import Matchmaking.Json.Skip

/-!
# The form of documents

Which bytes are a value, apart from any reader: numbers, texts, and containers of values to any
depth, with blanks between tokens. A number has no end of its own, so that what may stand after a
value is part of the form.
-/

namespace Matchmaking.Json

/-- Bytes that are blank between tokens. -/
def Blank (bs : List UInt8) : Prop := ∀ b ∈ bs, isSpace b = true

/-- What may stand after a value: nothing, a blank, a comma, or the end of a container. -/
def Follows (rest : List UInt8) : Prop :=
  ∀ b ∈ rest.head?, isSpace b = true ∨ b = 0x2C ∨ b = 0x5D ∨ b = 0x7D

/-! ## Numbers -/

/-- The digits before the point: a zero stands alone. -/
structure IsWhole (ds : List UInt8) : Prop where
  digits : ∀ d ∈ ds, isDigit d = true
  ne_nil : ds ≠ []
  zero_alone : ds.head? = some 0x30 → ds = [0x30]

/-- A point with one or more digits after it, or neither. -/
inductive IsFraction : Option (List UInt8) → List UInt8 → Prop where
  | none : IsFraction none []
  | some {ds : List UInt8} (digits : ∀ d ∈ ds, isDigit d = true) (ne_nil : ds ≠ []) :
      IsFraction (some ds) (0x2E :: ds)

/-- The mark of an exponent with one or more digits after it and perhaps a sign between, or none of
them. -/
inductive IsExponent : Option (Bool × List UInt8) → List UInt8 → Prop where
  | none : IsExponent none []
  | bare {mark : UInt8} {ds : List UInt8} (mark_eq : mark = 0x65 ∨ mark = 0x45)
      (digits : ∀ d ∈ ds, isDigit d = true) (ne_nil : ds ≠ []) :
      IsExponent (some (false, ds)) (mark :: ds)
  | signed {mark : UInt8} {ds : List UInt8} (negative : Bool) (mark_eq : mark = 0x65 ∨ mark = 0x45)
      (digits : ∀ d ∈ ds, isDigit d = true) (ne_nil : ds ≠ []) :
      IsExponent (some (negative, ds)) (mark :: (if negative then 0x2D else 0x2B) :: ds)

def signBytes (negative : Bool) : List UInt8 := if negative then [0x2D] else []

/-- The bytes of a number with the given parts. -/
inductive IsNumber : NumberText → List UInt8 → Prop where
  | parts {whole fractionBytes exponentBytes : List UInt8} {fraction : Option (List UInt8)}
      {exponent : Option (Bool × List UInt8)} (negative : Bool) (isWhole : IsWhole whole)
      (isFraction : IsFraction fraction fractionBytes)
      (isExponent : IsExponent exponent exponentBytes) :
      IsNumber ⟨negative, whole, fraction, exponent⟩
        (signBytes negative ++ (whole ++ (fractionBytes ++ exponentBytes)))

/-! ## Texts -/

/-- A character that stands for itself in a text. -/
def IsPlain (c : Char) : Prop := c ≠ '"' ∧ c ≠ '\\' ∧ 0x20 ≤ c.toNat

/-- The bytes of a `\u` escape with its unit. -/
inductive IsUnit : Nat → List UInt8 → Prop where
  | digits {a b c d : UInt8} {unit : Nat} (value : hexUnit? [a, b, c, d] = some unit) :
      IsUnit unit [0x5C, 0x75, a, b, c, d]

/-- What stands between the quotes of a text. A `\u` escape may hold any unit, also half a pair of
surrogates on its own. -/
inductive IsTextBody : List UInt8 → Prop where
  | nil : IsTextBody []
  | plain {c : Char} {body : List UInt8} (isPlain : IsPlain c) (tail : IsTextBody body) :
      IsTextBody (String.utf8EncodeChar c ++ body)
  | escape {b e : UInt8} {body : List UInt8} (escaped : escapedByte? b = some e)
      (tail : IsTextBody body) : IsTextBody (0x5C :: b :: body)
  | unit {n : Nat} {bs body : List UInt8} (isUnit : IsUnit n bs) (tail : IsTextBody body) :
      IsTextBody (bs ++ body)

/-- The code point of a pair of surrogates. -/
def pairPoint (lead trail : Nat) : Nat := 0x10000 + (lead - 0xD800) * 0x400 + (trail - 0xDC00)

/-- What stands between the quotes of a text, with the characters that it denotes. -/
inductive Spells : List UInt8 → List Char → Prop where
  | nil : Spells [] []
  | plain {c : Char} {body : List UInt8} {cs : List Char} (isPlain : IsPlain c)
      (tail : Spells body cs) : Spells (String.utf8EncodeChar c ++ body) (c :: cs)
  | escape {b e : UInt8} {body : List UInt8} {cs : List Char} (escaped : escapedByte? b = some e)
      (tail : Spells body cs) : Spells (0x5C :: b :: body) (Char.ofNat e.toNat :: cs)
  | unit {n : Nat} {bs body : List UInt8} {cs : List Char} (isUnit : IsUnit n bs)
      (not_lead : isLead n = false) (not_trail : isTrail n = false) (tail : Spells body cs) :
      Spells (bs ++ body) (Char.ofNat n :: cs)
  | pair {m n : Nat} {bs ds body : List UInt8} {cs : List Char} (isUnit : IsUnit m bs)
      (lead : isLead m = true) (isSecond : IsUnit n ds) (trail : isTrail n = true)
      (tail : Spells body cs) : Spells (bs ++ (ds ++ body)) (Char.ofNat (pairPoint m n) :: cs)

def quote (body : List UInt8) : List UInt8 := 0x22 :: (body ++ [0x22])

/-! ## Values -/

/-- A value in a container, with the blanks around it. -/
structure Part where
  before : List UInt8
  value : List UInt8
  after : List UInt8

/-- A member of an object: the blanks before its name, what stands between the quotes of the name,
the text that this denotes, the blanks before the colon, and the value. -/
structure Member extends Part where
  lead : List UInt8
  label : List UInt8
  name : String
  gap : List UInt8

namespace Part

def bytes (p : Part) : List UInt8 := p.before ++ (p.value ++ p.after)

structure Spaced (p : Part) : Prop where
  before : Blank p.before
  after : Blank p.after

end Part

namespace Member

def bytes (m : Member) : List UInt8 :=
  m.lead ++ (quote m.label ++ (m.gap ++ (0x3A :: m.toPart.bytes)))

structure Spaced (m : Member) : Prop extends m.toPart.Spaced where
  lead : Blank m.lead
  gap : Blank m.gap

def Named (m : Member) : Prop := Spells m.label m.name.toList

end Member

/-- Pieces with a comma between any two. -/
def separated : List (List UInt8) → List UInt8
  | [] => []
  | piece :: pieces => piece ++ pieces.flatMap (0x2C :: ·)

def listBytes (lead : List UInt8) (parts : List Part) : List UInt8 :=
  0x5B :: (lead ++ (separated (parts.map Part.bytes) ++ [0x5D]))

def objectBytes (lead : List UInt8) (ms : List Member) : List UInt8 :=
  0x7B :: (lead ++ (separated (ms.map Member.bytes) ++ [0x7D]))

theorem listBytes_append (lead rest : List UInt8) (parts : List Part) :
    listBytes lead parts ++ rest =
      0x5B :: (lead ++ (separated (parts.map Part.bytes) ++ 0x5D :: rest)) := by
  simp [listBytes]

theorem objectBytes_append (lead rest : List UInt8) (ms : List Member) :
    objectBytes lead ms ++ rest =
      0x7B :: (lead ++ (separated (ms.map Member.bytes) ++ 0x7D :: rest)) := by
  simp [objectBytes]

def nullBytes : List UInt8 := 0x6E :: nullTail

def flagBytes (b : Bool) : List UInt8 := if b then 0x74 :: trueTail else 0x66 :: falseTail

/-- The bytes of a value. Members of any names may follow one another. -/
inductive IsValue : List UInt8 → Prop where
  | null : IsValue nullBytes
  | flag (b : Bool) : IsValue (flagBytes b)
  | number {t : NumberText} {bs : List UInt8} (isNumber : IsNumber t bs) : IsValue bs
  | text {body : List UInt8} (isTextBody : IsTextBody body) : IsValue (quote body)
  | list {lead : List UInt8} {parts : List Part} (blank : Blank lead)
      (spaced : ∀ p ∈ parts, p.Spaced) (values : ∀ p ∈ parts, IsValue p.value) :
      IsValue (listBytes lead parts)
  | object {lead : List UInt8} {ms : List Member} (blank : Blank lead)
      (spaced : ∀ m ∈ ms, m.Spaced) (labels : ∀ m ∈ ms, IsTextBody m.label)
      (values : ∀ m ∈ ms, IsValue m.value) : IsValue (objectBytes lead ms)

/-- An object whose names all denote texts. -/
structure ObjectText where
  lead : List UInt8
  members : List Member
  blank : Blank lead
  spaced : ∀ m ∈ members, m.Spaced
  named : ∀ m ∈ members, m.Named
  values : ∀ m ∈ members, IsValue m.value

def ObjectText.bytes (o : ObjectText) : List UInt8 := objectBytes o.lead o.members

theorem ObjectText.ne_null (o : ObjectText) : o.bytes ≠ nullBytes :=
  fun h => absurd (List.cons.inj h).1 (by decide)

structure ListText where
  lead : List UInt8
  parts : List Part
  blank : Blank lead
  spaced : ∀ p ∈ parts, p.Spaced
  values : ∀ p ∈ parts, IsValue p.value

def ListText.bytes (l : ListText) : List UInt8 := listBytes l.lead l.parts

theorem ListText.isValue (l : ListText) : IsValue l.bytes := .list l.blank l.spaced l.values

theorem ListText.ne_null (l : ListText) : l.bytes ≠ nullBytes :=
  fun h => absurd (List.cons.inj h).1 (by decide)

/-! ## Where values begin and end -/

section Ends

variable {ws ws' bs rest v : List UInt8} {b : UInt8}

theorem Blank.append (h : Blank ws) (h' : Blank ws') : Blank (ws ++ ws') :=
  fun b hb => (List.mem_append.mp hb).elim (h b) (h' b)

theorem blank_nil : Blank [] := fun _ h => nomatch h

theorem dropSpace_append (h : Blank ws) : dropSpace (ws ++ bs) = dropSpace bs :=
  List.dropWhile_append_of_pos h

theorem dropSpace_cons (h : isSpace b = false) : dropSpace (b :: bs) = b :: bs :=
  List.dropWhile_cons_of_neg (by simp [h])

theorem dropSpace_eq_nil (h : Blank ws) : dropSpace ws = [] := by
  have hnil : dropSpace (ws ++ []) = dropSpace [] := dropSpace_append h
  rwa [List.append_nil] at hnil

theorem follows_nil : Follows [] := fun _ h => nomatch h

theorem follows_cons (h : b = 0x2C ∨ b = 0x5D ∨ b = 0x7D) : Follows (b :: rest) := by
  intro c hc
  cases hc
  exact Or.inr h

theorem Blank.follows (h : Blank ws) (hrest : Follows rest) : Follows (ws ++ rest) := by
  cases ws with
  | nil => exact hrest
  | cons b ws =>
      intro c hc
      cases hc
      exact Or.inl (h b List.mem_cons_self)

/-- What a value can begin with: neither a blank nor the mark of an end. -/
@[mk_iff] structure Begins (b : UInt8) : Prop where
  not_space : isSpace b = false
  ne_comma : b ≠ 0x2C
  ne_listEnd : b ≠ 0x5D
  ne_objectEnd : b ≠ 0x7D

instance (b : UInt8) : Decidable (Begins b) := decidable_of_iff _ (begins_iff b).symm

theorem begins_of_isDigit (h : isDigit b = true) : Begins b := by
  simp only [isDigit, Bool.and_eq_true, decide_eq_true_eq, UInt8.le_iff_toNat_le,
    UInt8.reduceToNat] at h
  refine ⟨?_, ?_, ?_, ?_⟩
  · simp only [isSpace, Bool.or_eq_false_iff, beq_eq_false_iff_ne, ne_eq, ← UInt8.toNat_inj,
      UInt8.reduceToNat]
    omega
  all_goals
    rintro rfl
    simp only [UInt8.reduceToNat] at h
    omega

theorem IsNumber.exists_cons {t : NumberText} (h : IsNumber t bs) :
    ∃ b tail, bs = b :: tail ∧ (b = 0x2D ∨ isDigit b = true) := by
  cases h with
  | parts negative isWhole =>
      cases negative with
      | true => exact ⟨_, _, rfl, Or.inl rfl⟩
      | false =>
          obtain ⟨d, ds, rfl⟩ := List.exists_cons_of_ne_nil isWhole.ne_nil
          exact ⟨_, _, rfl, Or.inr (isWhole.digits d List.mem_cons_self)⟩

/-- The first byte of a value tells what kind of value it is. -/
structure Heads (b : UInt8) (v : List UInt8) : Prop extends Begins b where
  cons : ∃ tail, v = b :: tail
  null : b = 0x6E → v = nullBytes := by exact fun h => absurd h (by decide)
  flag : b = 0x74 ∨ b = 0x66 → v = flagBytes (b == 0x74) := by
    exact fun h => absurd h (by decide)
  number : b = 0x2D ∨ isDigit b = true → ∃ t, IsNumber t v := by
    exact fun h => absurd h (by decide)
  text : b = 0x22 → ∃ body, IsTextBody body ∧ v = quote body := by
    exact fun h => absurd h (by decide)
  list : b = 0x5B → ∃ l : ListText, v = l.bytes := by
    exact fun h => absurd h (by decide)
  object : b = 0x7B → ∃ lead ms, Blank lead ∧ (∀ m ∈ ms, m.Spaced) ∧
      (∀ m ∈ ms, IsTextBody m.label) ∧ (∀ m ∈ ms, IsValue m.value) ∧ v = objectBytes lead ms := by
    exact fun h => absurd h (by decide)

theorem Heads.ne_null (h : Heads b v) (hb : b ≠ 0x6E) : v ≠ nullBytes := by
  rintro rfl
  obtain ⟨tail, hcons⟩ := h.cons
  exact hb (List.cons.inj hcons).1.symm

theorem IsValue.exists_heads (h : IsValue v) : ∃ b, Heads b v := by
  cases h with
  | null =>
      have begins : Begins 0x6E := by decide
      exact ⟨0x6E, { toBegins := begins, cons := ⟨_, rfl⟩, null := fun _ => rfl }⟩
  | flag b =>
      cases b with
      | true =>
          have begins : Begins 0x74 := by decide
          exact ⟨0x74, { toBegins := begins, cons := ⟨_, rfl⟩, flag := fun _ => rfl }⟩
      | false =>
          have begins : Begins 0x66 := by decide
          exact ⟨0x66, { toBegins := begins, cons := ⟨_, rfl⟩, flag := fun _ => rfl }⟩
  | @number t v isNumber =>
      obtain ⟨b, tail, hcons, hb⟩ := isNumber.exists_cons
      have begins : Begins b := by
        refine hb.elim ?_ begins_of_isDigit
        rintro rfl
        decide
      exact ⟨b, {
        toBegins := begins
        cons := ⟨tail, hcons⟩
        null := fun h => absurd (h ▸ hb) (by decide)
        flag := fun h => by rcases h with rfl | rfl <;> exact absurd hb (by decide)
        number := fun _ => ⟨t, isNumber⟩
        text := fun h => absurd (h ▸ hb) (by decide)
        list := fun h => absurd (h ▸ hb) (by decide)
        object := fun h => absurd (h ▸ hb) (by decide) }⟩
  | @text body isTextBody =>
      have begins : Begins 0x22 := by decide
      exact ⟨0x22, {
        toBegins := begins, cons := ⟨_, rfl⟩, text := fun _ => ⟨body, isTextBody, rfl⟩ }⟩
  | @list lead parts blank spaced values =>
      have begins : Begins 0x5B := by decide
      exact ⟨0x5B, {
        toBegins := begins, cons := ⟨_, rfl⟩
        list := fun _ => ⟨⟨lead, parts, blank, spaced, values⟩, rfl⟩ }⟩
  | @object lead ms blank spaced labels values =>
      have begins : Begins 0x7B := by decide
      exact ⟨0x7B, {
        toBegins := begins, cons := ⟨_, rfl⟩
        object := fun _ => ⟨lead, ms, blank, spaced, labels, values, rfl⟩ }⟩

theorem IsNumber.exists_heads {t : NumberText} (h : IsNumber t v) :
    ∃ b, Heads b v ∧ (b = 0x2D ∨ isDigit b = true) := by
  obtain ⟨b, hb⟩ := (IsValue.number h).exists_heads
  obtain ⟨c, tail, hcons, hc⟩ := h.exists_cons
  obtain ⟨tail', hcons'⟩ := hb.cons
  refine ⟨b, hb, ?_⟩
  rw [hcons'] at hcons
  cases hcons
  exact hc

theorem IsValue.exists_cons (h : IsValue v) : ∃ b tail, v = b :: tail ∧ Begins b := by
  obtain ⟨b, hb⟩ := h.exists_heads
  obtain ⟨tail, hcons⟩ := hb.cons
  exact ⟨b, tail, hcons, hb.toBegins⟩

end Ends

end Matchmaking.Json
