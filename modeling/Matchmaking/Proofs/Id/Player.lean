import Matchmaking.Proofs.Id.Grammar
import Matchmaking.Proofs.Id.Spelling
import Matchmaking.Proofs.Match.RoundTrip

/-!
# Which texts name players

A text names a player just if it is one of the spellings of 32 hexadecimal digits, and the player is
the one with the value of the digits. It does not matter whether the text stands alone or in a
document.
-/

namespace Matchmaking

open Number Text Json Json.Reader

namespace Uuid

def Denotes (cs : List Char) (value : BitVec 128) : Prop :=
  ∃ ds, cs.map (digitIn? 16) = ds.map some ∧ value.toNat = ofDigits 16 ds

section Digits

variable {cs cs' : List Char} {value value' : BitVec 128}

private theorem nibble?_eq_digitIn?_of_ascii : ∀ n : Fin 0x80,
    nibble? (UInt8.ofNat n) = digitIn? 16 (Char.ofNat n) := by
  decide +kernel

private theorem toLower_of_digitIn?_of_ascii : ∀ n : Fin 0x80, ∀ d ∈ digitIn? 16 (Char.ofNat n),
    d < 16 ∧ (Char.ofNat n).toLower = charOfNibble d := by
  decide +kernel

theorem map_nibble? (ascii : ∀ c ∈ cs, c.toNat < 0x80) :
    (asciiBytes cs).map nibble? = cs.map (digitIn? 16) := by
  rw [asciiBytes, List.map_map]
  apply List.map_congr_left
  intro c hc
  have hnibble := nibble?_eq_digitIn?_of_ascii ⟨c.toNat, ascii c hc⟩
  rwa [Char.ofNat_toNat] at hnibble

theorem IsDigits.toLower_of_digitIn? (h : IsDigits cs) {c : Char} (hc : c ∈ cs) {d : Nat}
    (hd : digitIn? 16 c = some d) : d < 16 ∧ c.toLower = charOfNibble d := by
  have hlower := toLower_of_digitIn?_of_ascii ⟨c.toNat, h.ascii c hc⟩
  simp only [Char.ofNat_toNat] at hlower
  exact hlower d hd

theorem IsDigits.lt_of_map {ds : List Nat} (h : IsDigits cs)
    (hds : cs.map (digitIn? 16) = ds.map some) : ∀ d ∈ ds, d < 16 := by
  intro d hd
  obtain ⟨c, hc, hcd⟩ := exists_read_of_mem hds hd
  exact (h.toLower_of_digitIn? hc hcd).1

/-- The number of 32 digits is not cut off. -/
theorem IsDigits.toNat_ofDigits {ds : List Nat} (h : IsDigits cs)
    (hds : cs.map (digitIn? 16) = ds.map some) :
    (BitVec.ofNat 128 (ofDigits 16 ds)).toNat = ofDigits 16 ds := by
  have hlt := ofDigits_lt (by decide) (h.lt_of_map hds)
  rw [← length_of_map_eq_map_some hds, h.length] at hlt
  rw [BitVec.toNat_ofNat]
  exact Nat.mod_eq_of_lt hlt

theorem ofNibbles?_eq_some_iff (h : IsDigits cs) :
    ofNibbles? (asciiBytes cs) = some value ↔ Denotes cs value := by
  rw [ofNibbles?, Option.map_eq_some_iff]
  constructor
  · intro hread
    obtain ⟨ds, hds, rfl⟩ := hread
    rw [mapM_eq_some_iff, map_nibble? h.ascii] at hds
    exact ⟨ds, hds, h.toNat_ofDigits hds⟩
  · intro hdenotes
    obtain ⟨ds, hds, hvalue⟩ := hdenotes
    refine ⟨ds, ?_, ?_⟩
    · rw [mapM_eq_some_iff, map_nibble? h.ascii, hds]
    · rw [← BitVec.toNat_inj, h.toNat_ofDigits hds, hvalue]

theorem denotes_eq_iff (h : IsDigits cs) (h' : IsDigits cs') (hvalue : Denotes cs value)
    (hvalue' : Denotes cs' value') :
    value = value' ↔ cs.map Char.toLower = cs'.map Char.toLower := by
  constructor
  · intro heq
    obtain ⟨ds, hds, hnumber⟩ := hvalue
    obtain ⟨ds', hds', hnumber'⟩ := hvalue'
    have hlength := (length_of_map_eq_map_some hds).symm.trans h.length
    have hlength' := (length_of_map_eq_map_some hds').symm.trans h'.length
    have hback : ds = ds' := by
      rw [← toDigits_ofDigits (h.lt_of_map hds), ← toDigits_ofDigits (h'.lt_of_map hds'), hlength,
        hlength', ← hnumber, ← hnumber', heq]
    calc
      cs.map Char.toLower = ds.map charOfNibble :=
        map_eq_map_of_read hds fun c hc d hd => (h.toLower_of_digitIn? hc hd).2
      _ = cs'.map Char.toLower := by
        rw [hback]
        exact (map_eq_map_of_read hds' fun c hc d hd => (h'.toLower_of_digitIn? hc hd).2).symm
  · intro hlower
    rw [← ofNibbles?_eq_some_iff h, ofNibbles?_congr h h' hlower] at hvalue
    rw [← ofNibbles?_eq_some_iff h', hvalue, Option.some.injEq] at hvalue'
    exact hvalue'

end Digits

/-! ## Only the spellings are read -/

section Reading

variable {bs ds inner : List UInt8} {value : BitVec 128}

def asciiChars (bs : List UInt8) : List Char := bs.map fun b => Char.ofNat b.toNat

private theorem toNat_of_ascii : ∀ n : Fin 0x80,
    UInt8.ofNat (Char.ofNat n).toNat = UInt8.ofNat n := by
  decide +kernel

theorem asciiBytes_asciiChars (ascii : ∀ b ∈ bs, b.toNat < 0x80) :
    asciiBytes (asciiChars bs) = bs := by
  rw [asciiBytes, asciiChars, List.map_map]
  apply (List.map_congr_left ?_).trans (List.map_id bs)
  intro b hb
  have hbyte := toNat_of_ascii ⟨b.toNat, ascii b hb⟩
  rwa [UInt8.ofNat_toNat] at hbyte

theorem ascii_of_isSome_nibble? {b : UInt8} (h : (nibble? b).isSome) : b.toNat < 0x80 := by
  unfold nibble? at h
  simp only [Bool.and_eq_true, decide_eq_true_eq, UInt8.le_iff_toNat_le, UInt8.reduceToNat] at h
  split at h
  · omega
  · split at h
    · omega
    · split at h
      · omega
      · cases h

/-- What is read as digits is digits. -/
theorem isDigits_of_ofNibbles? (length : bs.length = 32) (h : ofNibbles? bs = some value) :
    IsDigits (asciiChars bs) ∧ asciiBytes (asciiChars bs) = bs := by
  obtain ⟨ds, hds, -⟩ := Option.map_eq_some_iff.mp h
  have hsome : ∀ b ∈ bs, (nibble? b).isSome :=
    isSome_of_map_eq_map_some (mapM_eq_some_iff.mp hds)
  have hascii : ∀ b ∈ bs, b.toNat < 0x80 := fun b hb => ascii_of_isSome_nibble? (hsome b hb)
  refine ⟨⟨by rw [asciiChars, List.length_map, length], ?_⟩, asciiBytes_asciiChars hascii⟩
  intro c hc
  obtain ⟨b, hb, rfl⟩ := List.mem_map.mp hc
  have hhex := isSome_nibble?_of_ascii ⟨b.toNat, hascii b hb⟩
  rw [UInt8.ofNat_toNat, hsome b hb] at hhex
  exact of_decide_eq_true hhex.symm

private theorem split_of_getElem? {i : Nat} {b : UInt8} (h : bs[i]? = some b) :
    bs = bs.take i ++ b :: bs.drop (i + 1) := by
  obtain ⟨hi, rfl⟩ := List.getElem?_eq_some_iff.mp h
  rw [← List.drop_eq_getElem_cons hi, List.take_append_drop]

private theorem regroup {a b c d e : List UInt8} (ha : a.length = 8) (hb : b.length = 4)
    (hc : c.length = 4) (hd : d.length = 4) (h : ds = a ++ b ++ c ++ d ++ e) :
    ds.take 8 = a ∧ (ds.drop 8).take 4 = b ∧ (ds.drop 12).take 4 = c ∧ (ds.drop 16).take 4 = d ∧
      ds.drop 20 = e := by
  subst h
  refine ⟨?_, ?_, ?_, ?_, ?_⟩ <;>
    simp [List.drop_append, List.drop_eq_nil_of_le, ha, hb, hc, hd]

/-- The hyphens stand between the groups. -/
theorem groups_of_unhyphenate? (h : unhyphenate? bs = some ds) (length : bs.length = 36) :
    ds.length = 32 ∧ bs = ds.take 8 ++ 0x2D :: ((ds.drop 8).take 4 ++ 0x2D ::
      ((ds.drop 12).take 4 ++ 0x2D :: ((ds.drop 16).take 4 ++ 0x2D :: ds.drop 20))) := by
  unfold unhyphenate? at h
  split at h
  · rename_i hplaces
    simp only [hyphenPlaces, List.all_cons, List.all_nil, Bool.and_true, Bool.and_eq_true,
      beq_iff_eq] at hplaces
    obtain ⟨h8, h13, h18, h23⟩ := hplaces
    have split (start size : Nat) (hyphen : bs[start + size]? = some 0x2D) :
        bs.drop start = (bs.drop start).take size ++ 0x2D :: bs.drop (start + size + 1) := by
      have hdrop := split_of_getElem? (List.getElem?_drop.trans hyphen)
      rwa [List.drop_drop, ← Nat.add_assoc] at hdrop
    have hgroups : bs = bs.take 8 ++ 0x2D :: ((bs.drop 9).take 4 ++ 0x2D ::
        ((bs.drop 14).take 4 ++ 0x2D :: ((bs.drop 19).take 4 ++ 0x2D :: bs.drop 24))) := by
      rw [← split 19 4 h23, ← split 14 4 h18, ← split 9 4 h13]
      exact split_of_getElem? h8
    obtain ⟨h₁, h₂, h₃, h₄, h₅⟩ := regroup (by simp [length]) (by simp [length])
      (by simp [length]) (by simp [length]) (Option.some.inj h).symm
    refine ⟨?_, by rw [h₁, h₂, h₃, h₄, h₅]; exact hgroups⟩
    rw [← Option.some.inj h]
    simp [length]
  · cases h

/-- The hyphenated form of some digits is all that a wrapping can hold. -/
theorem exists_digits_of_unhyphenate? (length : inner.length = 36)
    (h : (unhyphenate? inner).bind ofNibbles? = some value) :
    ∃ cs, IsDigits cs ∧ inner = asciiBytes (hyphenate cs) ∧ Denotes cs value := by
  obtain ⟨ds, hds, hvalue⟩ := Option.bind_eq_some_iff.mp h
  obtain ⟨hlength, hinner⟩ := groups_of_unhyphenate? hds length
  obtain ⟨hdigits, hbytes⟩ := isDigits_of_ofNibbles? hlength hvalue
  refine ⟨asciiChars ds, hdigits, ?_, ?_⟩
  · simp only [asciiBytes_hyphenate, asciiBytes_take, asciiBytes_drop, hbytes]
    exact hinner
  · rwa [← ofNibbles?_eq_some_iff hdigits, hbytes]

/-- The texts that the wrappings of a hyphenated form make up. -/
theorem hyphenated?_cases (h : hyphenated? bs = some inner) : inner.length = 36 ∧
    (bs = inner ∨ bs = 0x7B :: (inner ++ [0x7D]) ∨
      ∃ mark, mark.map lowerByte = urnMark ∧ bs = mark ++ inner) := by
  unfold hyphenated? at h
  split at h
  · cases h
    exact ⟨‹_›, Or.inl rfl⟩
  · split at h
    · rename_i hbraced
      cases h
      simp only [isBraced, Bool.and_eq_true, decide_eq_true_eq, beq_iff_eq] at hbraced
      obtain ⟨hlength, ⟨-, hfirst⟩, hlast⟩ := hbraced
      have hback : bs.dropLast ++ [0x7D] = bs := List.dropLast_append_getLast? _ hlast
      obtain ⟨b, tail, rfl⟩ := List.exists_cons_of_length_eq_add_one hlength
      have hnil : tail ≠ [] := List.ne_nil_of_length_eq_add_one (Nat.succ.inj hlength)
      rw [List.dropLast_cons_of_ne_nil hnil] at hback
      cases hfirst
      exact ⟨by simp [unbrace, Nat.succ.inj hlength], Or.inr (Or.inl hback.symm)⟩
    · split at h
      · rename_i hurn
        cases h
        simp only [hasUrnMark, Bool.and_eq_true, decide_eq_true_eq, beq_iff_eq] at hurn
        exact ⟨by rw [List.length_drop, hurn.1], Or.inr (Or.inr ⟨bs.take 9, hurn.2,
          (List.take_append_drop 9 bs).symm⟩)⟩
      · cases h

private theorem toLower_of_lowerByte : ∀ n : Fin 256, lowerByte (UInt8.ofNat n) ∈ urnMark →
    n.val < 0x80 ∧ (Char.ofNat n).toLower = Char.ofNat (lowerByte (UInt8.ofNat n)).toNat := by
  decide +kernel

/-- The bytes before a hyphenated form are a mark of characters. -/
theorem isMark_asciiChars {mark : List UInt8} (h : mark.map lowerByte = urnMark) :
    asciiBytes (asciiChars mark) = mark ∧
      (asciiChars mark).map Char.toLower = "urn:uuid:".toList := by
  have hlower : ∀ b ∈ mark, b.toNat < 0x80 ∧
      (Char.ofNat b.toNat).toLower = Char.ofNat (lowerByte b).toNat := by
    intro b hb
    have hbyte := toLower_of_lowerByte ⟨b.toNat, b.toNat_lt⟩
    rw [UInt8.ofNat_toNat] at hbyte
    exact hbyte (h ▸ List.mem_map_of_mem hb)
  refine ⟨asciiBytes_asciiChars fun b hb => (hlower b hb).1, ?_⟩
  have hchars : (asciiChars mark).map Char.toLower = asciiChars (mark.map lowerByte) := by
    rw [asciiChars, asciiChars, List.map_map, List.map_map]
    exact List.map_congr_left fun b hb => (hlower b hb).2
  rw [hchars, h]
  decide

/-- A text that is read spells the digits of what is read. -/
theorem exists_spelling_of_read? (h : read? bs = some value) :
    ∃ cs text, IsDigits cs ∧ Spelling cs text ∧ bs = asciiBytes text ∧ Denotes cs value := by
  unfold read? at h
  split at h
  · rename_i hlength
    obtain ⟨hdigits, hbytes⟩ := isDigits_of_ofNibbles? hlength h
    refine ⟨asciiChars bs, _, hdigits, .bare, hbytes.symm, ?_⟩
    rwa [← ofNibbles?_eq_some_iff hdigits, hbytes]
  · obtain ⟨inner, hinner, hread⟩ := Option.bind_eq_some_iff.mp h
    obtain ⟨hlength, hform⟩ := hyphenated?_cases hinner
    obtain ⟨cs, hdigits, rfl, hdenotes⟩ := exists_digits_of_unhyphenate? hlength hread
    rcases hform with hplain | hbraced | ⟨mark, hmark, hurn⟩
    · exact ⟨cs, _, hdigits, .hyphenated, hplain, hdenotes⟩
    · exact ⟨cs, _, hdigits, .braced, by rw [hbraced]; simp [asciiBytes], hdenotes⟩
    · obtain ⟨hbytes, hlower⟩ := isMark_asciiChars hmark
      exact ⟨cs, _, hdigits, .urn hlower, by rw [asciiBytes_append, hbytes, hurn], hdenotes⟩

end Reading

/-- A text is read just if it spells some digits, and as the value of those digits. -/
theorem decode_eq_ok_iff {s : String} {value : BitVec 128} :
    decode s = .ok value ↔ ∃ cs, IsDigits cs ∧ Spelling cs s.toList ∧ Denotes cs value := by
  constructor
  · intro h
    have hread : read? (bytes s) = some value := by
      unfold decode at h
      split at h
      · rename_i hsome
        rw [hsome]
        cases h
        rfl
      · cases h
    obtain ⟨cs, text, hdigits, hspelling, hbytes, hdenotes⟩ := exists_spelling_of_read? hread
    have hs : s = String.ofList text := by
      apply bytes_injective
      rw [hbytes, bytes_of_ascii (hspelling.ascii hdigits)]
    rw [hs, String.toList_ofList]
    exact ⟨cs, hdigits, hspelling, hdenotes⟩
  · intro h
    obtain ⟨cs, hdigits, hspelling, hdenotes⟩ := h
    have hvalue := (ofNibbles?_eq_some_iff hdigits).mpr hdenotes
    have hdecode := decode_of_spelling hdigits hspelling hvalue
    rwa [String.ofList_toList] at hdecode

end Uuid

namespace PlayerId

variable {s s' : String} {cs cs' : List Char} {id : PlayerId}

open Uuid

private theorem parse_eq_ok_iff_decode : parse s = .ok id ↔ Uuid.decode s = .ok id.value := by
  obtain ⟨value⟩ := id
  unfold parse
  by_cases hempty : s = ""
  · have hrefused : Uuid.decode "" = .error (.invalidLength 0) := rfl
    simp [hempty, hrefused]
  · rw [if_neg hempty]
    cases Uuid.decode s <;> simp

theorem parse_eq_ok_iff : parse s = .ok id ↔
    ∃ cs, IsDigits cs ∧ Spelling cs s.toList ∧ Denotes cs id.value := by
  rw [parse_eq_ok_iff_decode, decode_eq_ok_iff]

theorem parse_text (id : PlayerId) : parse id.text = .ok id := by
  rw [parse_eq_ok_iff_decode, text, decode_encode]

theorem exists_denotes (h : IsDigits cs) : ∃ id : PlayerId, Denotes cs id.value := by
  obtain ⟨value, hvalue⟩ := h.exists_value
  exact ⟨⟨value⟩, (ofNibbles?_eq_some_iff h).mp hvalue⟩

theorem exists_parse_iff :
    (∃ id, parse s = .ok id) ↔ ∃ cs, IsDigits cs ∧ Spelling cs s.toList := by
  constructor
  · intro h
    obtain ⟨id, hid⟩ := h
    obtain ⟨cs, hdigits, hspelling, -⟩ := parse_eq_ok_iff.mp hid
    exact ⟨cs, hdigits, hspelling⟩
  · intro h
    obtain ⟨cs, hdigits, hspelling⟩ := h
    obtain ⟨id, hid⟩ := exists_denotes hdigits
    exact ⟨id, parse_eq_ok_iff.mpr ⟨cs, hdigits, hspelling, hid⟩⟩

theorem parse_spelling_iff (h : IsDigits cs) (spelling : Spelling cs s.toList) :
    parse s = .ok id ↔ Denotes cs id.value := by
  constructor
  · intro hparse
    obtain ⟨known, hknown⟩ := exists_denotes h
    have hsame := parse_eq_ok_iff.mpr ⟨cs, h, spelling, hknown⟩
    rw [hparse, Except.ok.injEq] at hsame
    exact hsame ▸ hknown
  · intro hid
    exact parse_eq_ok_iff.mpr ⟨cs, h, spelling, hid⟩

theorem parse_eq_parse_iff (h : IsDigits cs) (h' : IsDigits cs') (spelling : Spelling cs s.toList)
    (spelling' : Spelling cs' s'.toList) :
    parse s = parse s' ↔ cs.map Char.toLower = cs'.map Char.toLower := by
  obtain ⟨id, hid⟩ := exists_denotes h
  obtain ⟨id', hid'⟩ := exists_denotes h'
  rw [(parse_spelling_iff h spelling).mpr hid, (parse_spelling_iff h' spelling').mpr hid',
    ← denotes_eq_iff h h' hid hid', Except.ok.injEq]
  constructor
  · intro hsame
    rw [hsame]
  · intro hvalue
    obtain ⟨value⟩ := id
    obtain ⟨value'⟩ := id'
    exact congrArg mk hvalue

/-- A player is read from a text of a document, however it is escaped, as from the text. -/
theorem run_reader_eq_ok_iff {body ws rest : List UInt8} (spells : Spells body s.toList)
    (before : Blank ws) (after : Blank rest) :
    reader.run (ws ++ (quote body ++ rest)) = .ok id ↔ parse s = .ok id := by
  obtain ⟨value⟩ := id
  rw [reader, run_named_eq_ok_iff spells before after, String.ofList_toList,
    parse_eq_ok_iff_decode]
  cases Uuid.decode s <;> simp

/-! ## The written form -/

theorem digits_written (id : PlayerId) : IsDigits (nibbles id.value) ∧
    (∀ c ∈ nibbles id.value, c.isUpper = false) ∧ Denotes (nibbles id.value) id.value := by
  have hlower : ∀ d < 16, (charOfNibble d).isUpper = false := by decide
  have hdigits := nibbles_isDigits id.value
  refine ⟨hdigits, ?_, (ofNibbles?_eq_some_iff hdigits).mp (ofNibbles?_nibbles id.value)⟩
  intro c hc
  obtain ⟨d, hd, rfl⟩ := List.mem_map.mp hc
  exact hlower d (lt_of_mem_toDigits (by decide) hd)

/-- Nothing in the text of a player is escaped. -/
theorem render_toJson (id : PlayerId) : id.toJson.render = "\"" ++ id.text ++ "\"" := by
  have hplain : ∀ d < 16, escapeChar (charOfNibble d) = [charOfNibble d] := by decide
  have hchars : ∀ c ∈ id.text.toList, escapeChar c = [c] := by
    intro c hc
    rw [text, encode_eq, String.toList_ofList] at hc
    rcases mem_of_mem_hyphenate hc with rfl | hmem
    · decide
    · obtain ⟨d, hd, rfl⟩ := List.mem_map.mp hmem
      exact hplain d (lt_of_mem_toDigits (by decide) hd)
  have hflat : id.text.toList.flatMap escapeChar = id.text.toList := by
    rw [List.flatMap_congr hchars, List.flatMap_singleton']
  rw [← String.toList_inj, toJson, Value.render, Value.chars, textChars, hflat]
  simp

structure Grammar : Prop where
  written : ∀ id : PlayerId, parse id.text = .ok id
  accepted : ∀ s, (∃ id, parse s = .ok id) ↔ ∃ cs, IsDigits cs ∧ Spelling cs s.toList
  value : ∀ s cs, IsDigits cs → Spelling cs s.toList →
    ∀ id : PlayerId, parse s = .ok id ↔ Denotes cs id.value
  same : ∀ s s' cs cs', IsDigits cs → IsDigits cs' → Spelling cs s.toList →
    Spelling cs' s'.toList →
      (parse s = parse s' ↔ cs.map Char.toLower = cs'.map Char.toLower)
  escaped : ∀ s body, Spells body s.toList → ∀ ws rest, Blank ws → Blank rest →
    ∀ id : PlayerId, reader.run (ws ++ (quote body ++ rest)) = .ok id ↔ parse s = .ok id
  canonical : ∀ id : PlayerId, ∃ cs, IsDigits cs ∧ (∀ c ∈ cs, c.isUpper = false) ∧
    Denotes cs id.value ∧ id.text.toList = hyphenate cs ∧ id.toJson.render = "\"" ++ id.text ++ "\""

/-- A player is the same in every spelling of the digits, alone or in a document. -/
theorem spellings_exact : Grammar where
  written := parse_text
  accepted _ := exists_parse_iff
  value _ _ h spelling _ := parse_spelling_iff h spelling
  same _ _ _ _ := parse_eq_parse_iff
  escaped _ _ spells _ _ before after _ := run_reader_eq_ok_iff spells before after
  canonical := by
    intro id
    obtain ⟨hdigits, hlower, hdenotes⟩ := digits_written id
    refine ⟨nibbles id.value, hdigits, hlower, hdenotes, ?_, render_toJson id⟩
    rw [text, encode_eq, String.toList_ofList]

private def trialDigits : List Char := "6F1C1E0A52D84B1E9D4A0F0C3C1D2E3F".toList

private theorem isDigits_of_all {cs : List Char} (length : cs.length = 32)
    (hex : cs.all (fun c => c.isDigit || "abcdef".toList.contains c.toLower) = true) :
    IsDigits cs where
  length := length
  hex c hc := by simpa using List.all_eq_true.mp hex c hc

/-- Capital letters and a mark do not make another player. -/
theorem trial_spellings : parse "uRn:UUID:6F1C1E0A-52D8-4B1E-9D4A-0F0C3C1D2E3F" =
    parse "6f1c1e0a52d84b1e9d4a0f0c3c1d2e3f" := by
  have marked : Spelling trialDigits "uRn:UUID:6F1C1E0A-52D8-4B1E-9D4A-0F0C3C1D2E3F".toList :=
    .urn (show "uRn:UUID:".toList.map Char.toLower = _ by decide)
  have plain : Spelling (trialDigits.map Char.toLower)
      "6f1c1e0a52d84b1e9d4a0f0c3c1d2e3f".toList := .bare
  have digits : IsDigits trialDigits := isDigits_of_all rfl (by decide)
  have lower : IsDigits (trialDigits.map Char.toLower) := isDigits_of_all rfl (by decide)
  exact (spellings_exact.same _ _ _ _ digits lower marked plain).mpr (by decide)

end PlayerId

end Matchmaking
