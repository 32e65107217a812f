import Matchmaking.Proofs.Id.Text

/-!
# The spellings of one value

A player's identifier can be spelled in four ways, each in either case. All spellings of the same
32 digits have the same value, and the written one has the value that was written.
-/

namespace Matchmaking.Uuid

open Number Text

/-- 32 hexadecimal digits of either case. -/
structure IsDigits (cs : List Char) : Prop where
  length : cs.length = 32
  hex : ∀ c ∈ cs, c.isDigit ∨ c.toLower ∈ "abcdef".toList

def hyphenate (cs : List Char) : List Char :=
  cs.take 8 ++ '-' :: ((cs.drop 8).take 4 ++ '-' :: ((cs.drop 12).take 4 ++
    '-' :: ((cs.drop 16).take 4 ++ '-' :: cs.drop 20)))

/-- The texts that spell some digits. -/
inductive Spelling (cs : List Char) : List Char → Prop where
  | bare : Spelling cs cs
  | hyphenated : Spelling cs (hyphenate cs)
  | braced : Spelling cs ('\x7b' :: (hyphenate cs ++ ['\x7d']))
  | urn {mark : List Char} (isMark : mark.map Char.toLower = "urn:uuid:".toList) :
      Spelling cs (mark ++ hyphenate cs)

section Characters

variable {c : Char} {cs : List Char}

theorem isSome_nibble?_of_ascii : ∀ n : Fin 0x80,
    (nibble? (UInt8.ofNat n)).isSome =
      decide ((Char.ofNat n).isDigit ∨ (Char.ofNat n).toLower ∈ "abcdef".toList) := by
  decide +kernel

private theorem nibble?_toLower_of_ascii : ∀ n : Fin 0x80,
    nibble? (UInt8.ofNat (Char.ofNat n).toLower.toNat) = nibble? (UInt8.ofNat n) := by
  decide +kernel

private theorem lowerByte_of_ascii : ∀ n : Fin 0x80,
    lowerByte (UInt8.ofNat n) = UInt8.ofNat (Char.ofNat n).toLower.toNat := by
  decide +kernel

private theorem ascii_of_toLower (h : c.toLower.toNat < 0x80) : c.toNat < 0x80 := by
  by_cases hupper : c.val ≥ 'A'.val ∧ c.val ≤ 'Z'.val
  · exact Nat.lt_of_le_of_lt (UInt32.le_iff_toNat_le.mp hupper.2) (by decide)
  · have hsame : c.toLower = c := dif_neg hupper
    rwa [hsame] at h

private theorem ascii_of_mark {mark : List Char} (h : mark.map Char.toLower = "urn:uuid:".toList) :
    ∀ c ∈ mark, c.toNat < 0x80 := by
  intro c hc
  have hascii : "urn:uuid:".toList.all (fun x => x.toNat < 0x80) = true := by decide
  exact ascii_of_toLower (of_decide_eq_true
    (List.all_eq_true.mp hascii _ (h ▸ List.mem_map_of_mem hc)))

theorem IsDigits.ascii (h : IsDigits cs) : ∀ c ∈ cs, c.toNat < 0x80 := by
  intro c hc
  rcases h.hex c hc with hdigit | hletter
  · simp only [Char.isDigit, ge_iff_le, UInt32.le_iff_toNat_le, Bool.and_eq_true,
      decide_eq_true_eq, Char.toNat_val] at hdigit
    exact Nat.lt_of_le_of_lt hdigit.2 (by decide)
  · have hascii : "abcdef".toList.all (fun x => x.toNat < 0x80) = true := by decide
    exact ascii_of_toLower (of_decide_eq_true (List.all_eq_true.mp hascii _ hletter))

theorem IsDigits.exists_value (h : IsDigits cs) :
    ∃ value, ofNibbles? (asciiBytes cs) = some value := by
  have hsome : ∀ b ∈ asciiBytes cs, (nibble? b).isSome := by
    simp only [asciiBytes, List.forall_mem_map]
    intro c hc
    have hnibble := isSome_nibble?_of_ascii ⟨c.toNat, h.ascii c hc⟩
    rw [Char.ofNat_toNat] at hnibble
    rw [hnibble]
    exact decide_eq_true (h.hex c hc)
  obtain ⟨ds, hds⟩ := exists_map_eq_map_some hsome
  rw [ofNibbles?, mapM_eq_some_iff.mpr hds]
  exact ⟨_, rfl⟩

private theorem nibbles_toLower (ascii : ∀ c ∈ cs, c.toNat < 0x80) :
    (asciiBytes cs).map nibble? = (asciiBytes (cs.map Char.toLower)).map nibble? := by
  rw [asciiBytes, asciiBytes, List.map_map, List.map_map, List.map_map]
  apply List.map_congr_left
  intro c hc
  have hnibble := nibble?_toLower_of_ascii ⟨c.toNat, ascii c hc⟩
  rw [Char.ofNat_toNat] at hnibble
  exact hnibble.symm

/-- Digits that differ in case only have the same value. -/
theorem ofNibbles?_congr {cs' : List Char} (h : IsDigits cs) (h' : IsDigits cs')
    (hlower : cs.map Char.toLower = cs'.map Char.toLower) :
    ofNibbles? (asciiBytes cs) = ofNibbles? (asciiBytes cs') := by
  have hnibbles : (asciiBytes cs).map nibble? = (asciiBytes cs').map nibble? := by
    rw [nibbles_toLower h.ascii, hlower, ← nibbles_toLower h'.ascii]
  have hread (bs : List UInt8) : bs.mapM nibble? = (bs.map nibble?).mapM id := by
    rw [List.mapM_map]
    rfl
  rw [ofNibbles?, ofNibbles?, hread, hread, hnibbles]

end Characters

section Spellings

variable {cs : List Char} {value : BitVec 128}

/-- The digits of a hyphenated form are put together again. -/
theorem unhyphenate?_groups {a b c d e : List UInt8} (ha : a.length = 8) (hb : b.length = 4)
    (hc : c.length = 4) (hd : d.length = 4) :
    unhyphenate? (a ++ 0x2D :: (b ++ 0x2D :: (c ++ 0x2D :: (d ++ 0x2D :: e)))) =
      some (a ++ b ++ c ++ d ++ e) := by
  have hplaces : hyphenPlaces.all (fun i =>
      (a ++ 0x2D :: (b ++ 0x2D :: (c ++ 0x2D :: (d ++ 0x2D :: e))))[i]? == some 0x2D) = true := by
    simp [hyphenPlaces, List.getElem?_append, ha, hb, hc, hd]
  have hdrop : ∀ pre post : List UInt8, ∀ n, pre.length = n → (pre ++ post).drop n = post :=
    fun _ _ _ h => List.drop_left' h
  have h₁ := hdrop (a ++ [0x2D]) (b ++ 0x2D :: (c ++ 0x2D :: (d ++ 0x2D :: e))) 9 (by simp [ha])
  have h₂ := hdrop (a ++ 0x2D :: (b ++ [0x2D])) (c ++ 0x2D :: (d ++ 0x2D :: e)) 14
    (by simp [ha, hb])
  have h₃ := hdrop (a ++ 0x2D :: (b ++ 0x2D :: (c ++ [0x2D]))) (d ++ 0x2D :: e) 19
    (by simp [ha, hb, hc])
  have h₄ := hdrop (a ++ 0x2D :: (b ++ 0x2D :: (c ++ 0x2D :: (d ++ [0x2D])))) e 24
    (by simp [ha, hb, hc, hd])
  simp only [List.append_assoc, List.cons_append, List.nil_append] at h₁ h₂ h₃ h₄
  rw [unhyphenate?, if_pos hplaces, h₁, h₂, h₃, h₄, List.take_left' ha, List.take_left' hb,
    List.take_left' hc, List.take_left' hd]

theorem asciiBytes_hyphenate (cs : List Char) :
    asciiBytes (hyphenate cs) = asciiBytes (cs.take 8) ++ 0x2D ::
      (asciiBytes ((cs.drop 8).take 4) ++ 0x2D :: (asciiBytes ((cs.drop 12).take 4) ++ 0x2D ::
        (asciiBytes ((cs.drop 16).take 4) ++ 0x2D :: asciiBytes (cs.drop 20)))) := by
  simp [hyphenate, asciiBytes]

private theorem unhyphenate?_hyphenate (h : cs.length = 32) :
    unhyphenate? (asciiBytes (hyphenate cs)) = some (asciiBytes cs) := by
  have hgroups : cs.take 8 ++ (cs.drop 8).take 4 ++ (cs.drop 12).take 4 ++
      (cs.drop 16).take 4 ++ cs.drop 20 = cs := by
    rw [← List.take_add, ← List.take_add, ← List.take_add, List.take_append_drop]
  rw [asciiBytes_hyphenate, unhyphenate?_groups (by simp [h]) (by simp [h]) (by simp [h])
    (by simp [h]), ← asciiBytes_append, ← asciiBytes_append, ← asciiBytes_append,
    ← asciiBytes_append, hgroups]

private theorem length_hyphenate (h : cs.length = 32) : (hyphenate cs).length = 36 := by
  simp [hyphenate, h]

private theorem read?_of_hyphenated? {bs : List UInt8} (h : cs.length = 32)
    (other : bs.length ≠ 32) (form : hyphenated? bs = some (asciiBytes (hyphenate cs))) :
    read? bs = ofNibbles? (asciiBytes cs) := by
  rw [read?, if_neg other, form, Option.bind_some, unhyphenate?_hyphenate h, Option.bind_some]

theorem mem_of_mem_hyphenate {c : Char} (h : c ∈ hyphenate cs) : c = '-' ∨ c ∈ cs := by
  simp only [hyphenate, List.mem_append, List.mem_cons] at h
  rcases h with hc | rfl | hc | rfl | hc | rfl | hc | rfl | hc
  · exact Or.inr (List.mem_of_mem_take hc)
  · exact Or.inl rfl
  · exact Or.inr (List.mem_of_mem_drop (List.mem_of_mem_take hc))
  · exact Or.inl rfl
  · exact Or.inr (List.mem_of_mem_drop (List.mem_of_mem_take hc))
  · exact Or.inl rfl
  · exact Or.inr (List.mem_of_mem_drop (List.mem_of_mem_take hc))
  · exact Or.inl rfl
  · exact Or.inr (List.mem_of_mem_drop hc)

private theorem hyphenate_ascii (ascii : ∀ c ∈ cs, c.toNat < 0x80) :
    ∀ c ∈ hyphenate cs, c.toNat < 0x80 := by
  intro c hc
  rcases mem_of_mem_hyphenate hc with rfl | hmem
  · decide
  · exact ascii c hmem

theorem Spelling.ascii {text : List Char} (h : IsDigits cs) (spelling : Spelling cs text) :
    ∀ c ∈ text, c.toNat < 0x80 := by
  have hhyphenate := hyphenate_ascii h.ascii
  cases spelling with
  | bare => exact h.ascii
  | hyphenated => exact hhyphenate
  | braced => simpa [or_imp, forall_and] using hhyphenate
  | urn isMark =>
      intro c hc
      exact (List.mem_append.mp hc).elim (ascii_of_mark isMark c) (hhyphenate c)

private theorem hyphenated?_braced {inner : List UInt8} (h : inner.length = 36) :
    hyphenated? (0x7B :: (inner ++ [0x7D])) = some inner := by
  have hlength : (0x7B :: (inner ++ [0x7D])).length = 38 := by simp [h]
  have hbraced : isBraced (0x7B :: (inner ++ [0x7D])) = true := by
    simp [isBraced, List.getLast?_cons]
  rw [hyphenated?, if_neg (by omega), hlength, hbraced, if_pos (by decide), unbrace, List.tail_cons,
    List.dropLast_concat]

private theorem hyphenated?_urn {mark : List Char} {inner : List UInt8}
    (isMark : mark.map Char.toLower = "urn:uuid:".toList) (h : inner.length = 36) :
    hyphenated? (asciiBytes mark ++ inner) = some inner := by
  have hnine : mark.length = 9 := by
    have hlength := congrArg List.length isMark
    rwa [List.length_map] at hlength
  have hmark : (asciiBytes mark).length = 9 := by rw [length_asciiBytes, hnine]
  have hlower : (asciiBytes mark).map lowerByte = asciiBytes (mark.map Char.toLower) := by
    rw [asciiBytes, asciiBytes, List.map_map, List.map_map]
    apply List.map_congr_left
    intro c hc
    have hbyte := lowerByte_of_ascii ⟨c.toNat, ascii_of_mark isMark c hc⟩
    rwa [Char.ofNat_toNat] at hbyte
  have hurn : hasUrnMark (asciiBytes mark ++ inner) = true := by
    rw [hasUrnMark, List.take_left' hmark, hlower, isMark]
    decide
  have hlength : (asciiBytes mark ++ inner).length = 45 := by
    rw [List.length_append, hmark, h]
  rw [hyphenated?, if_neg (by omega), hlength, if_neg (by simp), hurn, if_pos (by decide),
    List.drop_left' hmark]

theorem decode_of_spelling {text : List Char} (h : IsDigits cs) (spelling : Spelling cs text)
    (hvalue : ofNibbles? (asciiBytes cs) = some value) :
    decode (String.ofList text) = .ok value := by
  have hlength : (asciiBytes (hyphenate cs)).length = 36 := by
    rw [length_asciiBytes, length_hyphenate h.length]
  suffices hread : read? (asciiBytes text) = some value by
    rw [decode, bytes_of_ascii (spelling.ascii h), hread]
  rw [← hvalue]
  cases spelling with
  | bare => rw [read?, length_asciiBytes, if_pos h.length]
  | hyphenated =>
      apply read?_of_hyphenated? h.length
      · omega
      · rw [hyphenated?, if_pos hlength]
  | braced =>
      have hbytes : asciiBytes ('\x7b' :: (hyphenate cs ++ ['\x7d'])) =
          0x7B :: (asciiBytes (hyphenate cs) ++ [0x7D]) := by
        simp [asciiBytes]
      rw [hbytes]
      apply read?_of_hyphenated? h.length
      · simp [hlength]
      · exact hyphenated?_braced hlength
  | urn isMark =>
      rw [asciiBytes_append]
      apply read?_of_hyphenated? h.length
      · simp [hlength]
      · exact hyphenated?_urn isMark hlength

theorem exists_value_of_spellings {cs' text text' : List Char} (h : IsDigits cs)
    (h' : IsDigits cs') (hlower : cs.map Char.toLower = cs'.map Char.toLower)
    (spelling : Spelling cs text) (spelling' : Spelling cs' text') :
    ∃ value, decode (String.ofList text) = .ok value ∧
      decode (String.ofList text') = .ok value := by
  obtain ⟨value, hvalue⟩ := h.exists_value
  have hvalue' : ofNibbles? (asciiBytes cs') = some value := by
    rw [← hvalue, ofNibbles?_congr h h' hlower]
  exact ⟨value, decode_of_spelling h spelling hvalue, decode_of_spelling h' spelling' hvalue'⟩

end Spellings

section Written

theorem nibble?_charOfNibble :
    ∀ d < 16, nibble? (UInt8.ofNat (charOfNibble d).toNat) = some d := by decide

theorem ofNibbles?_nibbles (value : BitVec 128) :
    ofNibbles? (asciiBytes (nibbles value)) = some value := by
  have hread : (asciiBytes (nibbles value)).mapM nibble? = some (toDigits 16 32 value.toNat) := by
    rw [asciiBytes, nibbles, List.map_map]
    exact mapM_map_of_inverse fun d hd =>
      nibble?_charOfNibble d (lt_of_mem_toDigits (by decide) hd)
  rw [ofNibbles?, hread, Option.map_some, ofNat_ofDigits_toDigits value (by decide)]

theorem nibbles_isDigits (value : BitVec 128) : IsDigits (nibbles value) where
  length := by rw [nibbles, List.length_map, length_toDigits]
  hex := by
    have hdigit : ∀ d < 16, (charOfNibble d).isDigit ∨
        (charOfNibble d).toLower ∈ "abcdef".toList := by decide
    intro c hc
    obtain ⟨d, hd, rfl⟩ := List.mem_map.mp hc
    exact hdigit d (lt_of_mem_toDigits (by decide) hd)

theorem encode_eq (value : BitVec 128) :
    encode value = String.ofList (hyphenate (nibbles value)) := by
  simp [encode, hyphenate]

theorem decode_encode (value : BitVec 128) : decode (encode value) = .ok value := by
  rw [encode_eq]
  exact decode_of_spelling (nibbles_isDigits value) .hyphenated (ofNibbles?_nibbles value)

end Written

end Matchmaking.Uuid
