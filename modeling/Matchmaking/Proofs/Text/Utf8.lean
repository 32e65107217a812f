import Matchmaking.Text.Utf8

/-!
# The bytes of characters
-/

namespace Matchmaking.Text

theorem bytes_ofList (cs : List Char) :
    bytes (String.ofList cs) = cs.flatMap String.utf8EncodeChar := by
  show (String.ofList cs).toByteArray.data.toList = _
  rw [String.toByteArray_ofList, List.utf8Encode, List.data_toByteArray]

theorem bytes_injective {s t : String} (h : bytes s = bytes t) : s = t := by
  have hsome := ofBytes?_bytes s
  rw [h, ofBytes?_bytes, Option.some.injEq] at hsome
  exact hsome.symm

theorem bytes_append (s t : String) : bytes (s ++ t) = bytes s ++ bytes t := by
  have hchars : s ++ t = String.ofList (s.toList ++ t.toList) := by
    rw [← String.toList_append, String.ofList_toList]
  rw [hchars, bytes_ofList, List.flatMap_append, ← bytes_ofList, ← bytes_ofList,
    String.ofList_toList, String.ofList_toList]

/-- A byte of a character is its code point or lies outside the ASCII range. -/
theorem toNat_of_mem_utf8EncodeChar {c : Char} {b : UInt8} (h : b ∈ String.utf8EncodeChar c) :
    (b.toNat = c.toNat ∧ c.toNat < 128) ∨ (128 ≤ b.toNat ∧ 128 ≤ c.toNat) := by
  simp only [String.utf8EncodeChar] at h
  have hv : c.val.toNat = c.toNat := rfl
  split at h
  · rw [List.mem_singleton.mp h, UInt8.toNat_ofNat', hv]
    omega
  · right
    split at h
    · simp only [List.mem_cons, List.not_mem_nil, or_false] at h
      rcases h with rfl | rfl <;> rw [UInt8.toNat_ofNat', hv] <;> omega
    · split at h
      · simp only [List.mem_cons, List.not_mem_nil, or_false] at h
        rcases h with rfl | rfl | rfl <;> rw [UInt8.toNat_ofNat', hv] <;> omega
      · simp only [List.mem_cons, List.not_mem_nil, or_false] at h
        rcases h with rfl | rfl | rfl | rfl <;> rw [UInt8.toNat_ofNat', hv] <;> omega

theorem utf8EncodeChar_of_ascii {c : Char} (h : c.toNat < 0x80) :
    String.utf8EncodeChar c = [UInt8.ofNat c.toNat] := by
  have hv : c.val.toNat ≤ 127 := Nat.le_of_lt_succ h
  simp only [String.utf8EncodeChar, hv, if_true]
  rfl

/-- The code points of characters as bytes. -/
def asciiBytes (cs : List Char) : List UInt8 := cs.map fun c => UInt8.ofNat c.toNat

@[simp] theorem asciiBytes_append (cs ds : List Char) :
    asciiBytes (cs ++ ds) = asciiBytes cs ++ asciiBytes ds := List.map_append

theorem asciiBytes_take (cs : List Char) (n : Nat) :
    asciiBytes (cs.take n) = (asciiBytes cs).take n := List.map_take

theorem asciiBytes_drop (cs : List Char) (n : Nat) :
    asciiBytes (cs.drop n) = (asciiBytes cs).drop n := List.map_drop

@[simp] theorem length_asciiBytes (cs : List Char) : (asciiBytes cs).length = cs.length :=
  List.length_map _

/-- A text of ASCII characters has one byte for each. -/
theorem bytes_of_ascii {cs : List Char} (h : ∀ c ∈ cs, c.toNat < 0x80) :
    bytes (String.ofList cs) = asciiBytes cs := by
  rw [bytes_ofList]
  induction cs with
  | nil => rfl
  | cons c cs ih =>
      rw [List.flatMap_cons, utf8EncodeChar_of_ascii (h c List.mem_cons_self),
        ih fun d hd => h d (List.mem_cons_of_mem c hd)]
      rfl

theorem utf8ByteSize_of_ascii {cs : List Char} (h : ∀ c ∈ cs, c.toNat < 0x80) :
    (String.ofList cs).utf8ByteSize = cs.length := by
  have hbytes : (bytes (String.ofList cs)).length = cs.length := by
    rw [bytes_of_ascii h, length_asciiBytes]
  exact hbytes

end Matchmaking.Text
