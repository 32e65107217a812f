import Mathlib.Data.List.TakeDrop
import Matchmaking.Id.Basic
import Matchmaking.Proofs.Text.Utf8

/-!
# The texts of identifiers

An identifier is found again from its text.
-/

namespace Matchmaking

open Number Text

section Lists

variable {α β γ : Type} {read? : α → Option β} {as : List α} {bs : List β}

theorem mapM_eq_some_iff : as.mapM read? = some bs ↔ as.map read? = bs.map some := by
  induction as generalizing bs with
  | nil => cases bs <;> simp
  | cons a as ih =>
      rw [List.mapM_cons, List.map_cons]
      cases bs with
      | nil => simp [Option.bind_eq_some_iff]
      | cons b bs => simp [Option.bind_eq_some_iff, ih]

theorem exists_map_eq_map_some (h : ∀ a ∈ as, (read? a).isSome) :
    ∃ bs : List β, as.map read? = bs.map some := by
  induction as with
  | nil => exact ⟨[], rfl⟩
  | cons a as ih =>
      obtain ⟨b, hb⟩ := Option.isSome_iff_exists.mp (h a List.mem_cons_self)
      obtain ⟨bs, hbs⟩ := ih fun x hx => h x (List.mem_cons_of_mem a hx)
      exact ⟨b :: bs, by rw [List.map_cons, List.map_cons, hb, hbs]⟩

theorem isSome_of_map_eq_map_some (h : as.map read? = bs.map some) :
    ∀ a ∈ as, (read? a).isSome := by
  intro a ha
  have hmem : read? a ∈ bs.map some := h ▸ List.mem_map_of_mem ha
  obtain ⟨b, -, hb⟩ := List.mem_map.mp hmem
  rw [← hb, Option.isSome_some]

theorem length_of_map_eq_map_some (h : as.map read? = bs.map some) : as.length = bs.length := by
  have hlength := congrArg List.length h
  rwa [List.length_map, List.length_map] at hlength

theorem exists_read_of_mem (h : as.map read? = bs.map some) {b : β} (hb : b ∈ bs) :
    ∃ a ∈ as, read? a = some b := by
  have hmem : some b ∈ as.map read? := h ▸ List.mem_map_of_mem hb
  exact List.mem_map.mp hmem

theorem map_eq_map_of_read {f : α → γ} {g : β → γ} (h : as.map read? = bs.map some)
    (same : ∀ a ∈ as, ∀ b, read? a = some b → f a = g b) : as.map f = bs.map g := by
  induction as generalizing bs with
  | nil =>
      cases bs with
      | nil => rfl
      | cons => cases h
  | cons a as ih =>
      cases bs with
      | nil => cases h
      | cons b bs =>
          rw [List.map_cons, List.map_cons, List.cons.injEq] at h
          rw [List.map_cons, List.map_cons, same a List.mem_cons_self b h.1,
            ih h.2 fun x hx => same x (List.mem_cons_of_mem a hx)]

end Lists

/-- Digits are found again from their characters. -/
theorem mapM_map_of_inverse {α β : Type} {write : α → β} {read? : β → Option α} {ds : List α}
    (h : ∀ d ∈ ds, read? (write d) = some d) : (ds.map write).mapM read? = some ds := by
  rw [mapM_eq_some_iff, List.map_map]
  exact List.map_congr_left h

/-- The digits of a value are enough of them to make it up again. -/
theorem ofNat_ofDigits_toDigits {base count : Nat} (value : BitVec 128)
    (h : Nat.pow 2 128 ≤ Nat.pow base count) :
    BitVec.ofNat 128 (ofDigits base (toDigits base count value.toNat)) = value := by
  have hlt : value.toNat < Nat.pow base count := Nat.lt_of_lt_of_le value.isLt h
  rw [ofDigits_toDigits, Nat.mod_eq_of_lt hlt, BitVec.ofNat_toNat, BitVec.setWidth_eq]

namespace Ulid

theorem digitOfChar?_charOfDigit : ∀ d < 32, digitOfChar? (charOfDigit d) = some d := by decide

theorem charOfDigit_ascii : ∀ d < 32, (charOfDigit d).toNat < 0x80 := by decide

theorem ascii_digits (value : BitVec 128) :
    ∀ c ∈ (toDigits 32 textLength value.toNat).map charOfDigit, c.toNat < 0x80 := by
  intro c hc
  obtain ⟨d, hd, rfl⟩ := List.mem_map.mp hc
  exact charOfDigit_ascii d (lt_of_mem_toDigits (by decide) hd)

theorem decode_encode (value : BitVec 128) : decode (encode value) = .ok value := by
  have hdigits : ∀ d ∈ toDigits 32 textLength value.toNat, d < 32 := fun d hd =>
    lt_of_mem_toDigits (by decide) hd
  have hlength : (encode value).utf8ByteSize = textLength := by
    rw [encode, utf8ByteSize_of_ascii (ascii_digits value), List.length_map, length_toDigits]
  have hread : (encode value).toList.mapM digitOfChar? =
      some (toDigits 32 textLength value.toNat) := by
    rw [encode, String.toList_ofList]
    exact mapM_map_of_inverse fun d hd => digitOfChar?_charOfDigit d (hdigits d hd)
  rw [decode, if_neg (fun h => h hlength)]
  simp only [hread]
  rw [ofNat_ofDigits_toDigits value (by decide)]

end Ulid

namespace Id

variable {kind : IdKind}

/-- The first underscore separates the kind from the value. -/
theorem parse_separated {s label : String} {value : List Char} (plain : '_' ∉ label.toList)
    (parts : s.toList = label.toList ++ '_' :: value) :
    (parse s : Except IdError (Id kind)) =
      if label ≠ kind.label then .error (.invalidPrefix kind.label label)
      else match Ulid.decode (String.ofList value) with
        | .ok value => .ok ⟨value⟩
        | .error why => .error (.invalidUlid why) := by
  have hne : s ≠ "" := by
    rintro rfl
    exact List.append_ne_nil_of_right_ne_nil _ (List.cons_ne_nil _ _) parts.symm
  have hlabel : ∀ c ∈ label.toList, decide (c ≠ '_') = true := by
    intro c hc
    exact decide_eq_true fun h => plain (h ▸ hc)
  have hspan : s.toList.span (· ≠ '_') = (label.toList, '_' :: value) := by
    rw [parts, List.span_eq_takeWhile_dropWhile, List.takeWhile_append_of_pos hlabel,
      List.dropWhile_append_of_pos hlabel, List.takeWhile_cons_of_neg (by decide),
      List.dropWhile_cons_of_neg (by decide), List.append_nil]
  have hname : String.ofList label.toList = label := String.ofList_toList
  rw [parse, if_neg hne, hspan]
  exact if_congr (by rw [hname]) (by rw [hname]) rfl

theorem separator_not_mem_label (kind : IdKind) : '_' ∉ kind.label.toList := by
  cases kind <;> decide

def spelling (kind : IdKind) (cs : List Char) : String := kind.label ++ "_" ++ String.ofList cs

theorem toList_spelling (cs : List Char) :
    (spelling kind cs).toList = kind.label.toList ++ '_' :: cs := by
  simp [spelling]

theorem parse_spelling (cs : List Char) :
    (parse (spelling kind cs) : Except IdError (Id kind)) =
      match Ulid.decode (String.ofList cs) with
      | .ok value => .ok ⟨value⟩
      | .error why => .error (.invalidUlid why) := by
  rw [parse_separated (separator_not_mem_label kind) (toList_spelling cs), if_neg (fun h => h rfl)]

theorem parse_text (id : Id kind) : parse id.text = .ok id := by
  have hchars : id.text = spelling kind (Ulid.encode id.value).toList := by
    rw [text, spelling, String.ofList_toList]
  rw [hchars, parse_spelling, String.ofList_toList, Ulid.decode_encode]

end Id

end Matchmaking
