import Mathlib.Data.List.Induction
import Mathlib.Data.List.TakeWhile
import Matchmaking.Proofs.Id.Text
import Matchmaking.Proofs.Match.Codec

/-!
# Which texts are identifiers

The grammar of the texts that are read as identifiers, the error that each other text gets, and
which texts name the same identifier. The text of 26 digits has two bits too many, and those are
dropped; otherwise texts that differ in more than case name different values.
-/

namespace Matchmaking

open Number Text Json Json.Reader

namespace Number

variable {base : Nat} {ds : List Nat}

theorem ofDigits_cons (d : Nat) (ds : List Nat) :
    ofDigits base (d :: ds) = d * Nat.pow base ds.length + ofDigits base ds := by
  induction ds using List.reverseRecOn with
  | nil => simp [ofDigits]
  | append_singleton ds e ih =>
      have hpow : Nat.pow base (ds.length + 1) = Nat.pow base ds.length * base := rfl
      rw [← List.cons_append, ofDigits_append_singleton, ofDigits_append_singleton, ih,
        List.length_append, List.length_singleton, hpow, Nat.add_mul, Nat.mul_assoc, Nat.add_assoc]

/-- Digits are the last digits of the number that they stand for. -/
theorem toDigits_ofDigits (h : ∀ d ∈ ds, d < base) :
    toDigits base ds.length (ofDigits base ds) = ds := by
  induction ds using List.reverseRecOn with
  | nil => rfl
  | append_singleton ds d ih =>
      have hd : d < base := h d (by simp)
      have hdiv : (ofDigits base ds * base + d) / base = ofDigits base ds := by
        rw [Nat.mul_comm, Nat.mul_add_div (Nat.zero_lt_of_lt hd), Nat.div_eq_of_lt hd, Nat.add_zero]
      rw [ofDigits_append_singleton, List.length_append, List.length_singleton, toDigits, hdiv,
        ih fun e he => h e (List.mem_append_left _ he), Nat.mul_add_mod_of_lt hd]

theorem ofDigits_lt (hb : 0 < base) (h : ∀ d ∈ ds, d < base) :
    ofDigits base ds < Nat.pow base ds.length := by
  have hmod := ofDigits_toDigits base ds.length (ofDigits base ds)
  rw [toDigits_ofDigits h] at hmod
  rw [hmod]
  exact Nat.mod_lt _ (Nat.pow_pos hb)

end Number

namespace Ulid

/-- A digit, or a letter of either case other than `I`, `L`, `O` and `U`. -/
def IsDigit (c : Char) : Prop := c.isDigit ∨ c.isAlpha ∧ c.toUpper ∉ ['I', 'L', 'O', 'U']

instance : DecidablePred IsDigit := fun _ => inferInstanceAs (Decidable (_ ∨ _))

/-- The characters of a value. -/
def IsText (cs : List Char) : Prop := cs.length = textLength ∧ ∀ c ∈ cs, IsDigit c

section Digits

variable {c : Char} {d : Nat} {cs : List Char} {ds : List Nat}

private theorem ascii_of_le {last : Char} (h : c.val ≤ last.val) (ascii : last.toNat < 0x80) :
    c.toNat < 0x80 :=
  Nat.lt_of_le_of_lt (UInt32.le_iff_toNat_le.mp h) ascii

theorem IsDigit.ascii (h : IsDigit c) : c.toNat < 0x80 := by
  rcases h with hdigit | ⟨halpha, -⟩
  · obtain ⟨-, hlast⟩ := Bool.and_eq_true_iff.mp hdigit
    exact ascii_of_le (of_decide_eq_true hlast) (by decide)
  · rcases Bool.or_eq_true_iff.mp halpha with hupper | hlower
    · exact ascii_of_le (of_decide_eq_true hupper).2 (by decide)
    · exact ascii_of_le (of_decide_eq_true (Bool.and_eq_true_iff.mp hlower).2) (by decide)

theorem toUpper_of_digitOfChar? (h : digitOfChar? c = some d) :
    d < 32 ∧ c.toUpper = charOfDigit d := by
  obtain ⟨hd, hc, -⟩ := List.idxOf?_eq_some_iff.mp h
  refine ⟨hd, ?_⟩
  rw [charOfDigit, List.getD_eq_getElem?_getD, List.getElem?_eq_getElem hd, hc, Option.getD_some]

private theorem isSome_digitOfChar?_of_ascii : ∀ n : Fin 0x80,
    (digitOfChar? (Char.ofNat n)).isSome ↔ IsDigit (Char.ofNat n) := by decide +kernel

theorem isSome_digitOfChar?_iff : (digitOfChar? c).isSome ↔ IsDigit c := by
  by_cases h : c.toNat < 0x80
  · have hc := isSome_digitOfChar?_of_ascii ⟨c.toNat, h⟩
    rwa [Char.ofNat_toNat] at hc
  · refine iff_of_false (fun hdigit => h ?_) fun hdigit => h hdigit.ascii
    obtain ⟨d, hd⟩ := Option.isSome_iff_exists.mp hdigit
    obtain ⟨hlt, hupper⟩ := toUpper_of_digitOfChar? hd
    have hsame : c.toUpper = c := dif_neg fun hlower => h (ascii_of_le hlower.2 (by decide))
    rw [← hsame, hupper]
    exact charOfDigit_ascii d hlt

theorem lt_of_digits (h : cs.map digitOfChar? = ds.map some) : ∀ d ∈ ds, d < 32 := by
  intro d hd
  obtain ⟨c, -, hc⟩ := exists_read_of_mem h hd
  exact (toUpper_of_digitOfChar? hc).1

theorem exists_digits (h : ∀ c ∈ cs, IsDigit c) :
    ∃ ds : List Nat, cs.map digitOfChar? = ds.map some :=
  exists_map_eq_map_some fun c hc => isSome_digitOfChar?_iff.mpr (h c hc)

theorem isDigit_of_digits (h : cs.map digitOfChar? = ds.map some) : ∀ c ∈ cs, IsDigit c :=
  fun c hc => isSome_digitOfChar?_iff.mp (isSome_of_map_eq_map_some h c hc)

theorem map_toUpper_of_digits (h : cs.map digitOfChar? = ds.map some) :
    cs.map Char.toUpper = ds.map charOfDigit :=
  map_eq_map_of_read h fun _ _ _ hc => (toUpper_of_digitOfChar? hc).2

theorem digits_eq_iff {cs' : List Char} {ds' : List Nat} (h : cs.map digitOfChar? = ds.map some)
    (h' : cs'.map digitOfChar? = ds'.map some) :
    ds = ds' ↔ cs.map Char.toUpper = cs'.map Char.toUpper := by
  constructor
  · rintro rfl
    rw [map_toUpper_of_digits h, map_toUpper_of_digits h']
  · intro hupper
    have hdigits (xs : List Char) : xs.map digitOfChar? =
        (xs.map Char.toUpper).map alphabet.idxOf? := by
      rw [List.map_map]
      rfl
    rw [hdigits, hupper, ← hdigits, h'] at h
    exact ((List.map_inj_right fun _ _ => Option.some.inj).mp h).symm

end Digits

section Values

variable {cs : List Char} {ds : List Nat}

theorem decode_of_digits (hlength : cs.length = textLength)
    (h : cs.map digitOfChar? = ds.map some) :
    decode (String.ofList cs) = .ok (BitVec.ofNat 128 (ofDigits 32 ds)) := by
  have hascii : ∀ c ∈ cs, c.toNat < 0x80 := fun c hc => (isDigit_of_digits h c hc).ascii
  rw [decode, utf8ByteSize_of_ascii hascii, if_neg (fun hne => hne hlength), String.toList_ofList,
    mapM_eq_some_iff.mpr h]

theorem exists_decode_iff : (∃ value, decode (String.ofList cs) = .ok value) ↔ IsText cs := by
  constructor
  · rintro ⟨value, h⟩
    rw [decode, String.toList_ofList] at h
    by_cases hsize : (String.ofList cs).utf8ByteSize = textLength
    · rw [if_neg (fun hne => hne hsize)] at h
      cases hread : cs.mapM digitOfChar? with
      | none => simp [hread] at h
      | some ds =>
          have hdigit := isDigit_of_digits (mapM_eq_some_iff.mp hread)
          rw [utf8ByteSize_of_ascii fun c hc => (hdigit c hc).ascii] at hsize
          exact ⟨hsize, hdigit⟩
    · rw [if_pos hsize] at h
      cases h
  · rintro ⟨hlength, hdigit⟩
    obtain ⟨ds, hds⟩ := exists_digits hdigit
    exact ⟨_, decode_of_digits hlength hds⟩

/-- Of 26 digits, the first one counts for its last three bits. -/
theorem ofNat_ofDigits_eq_iff {d e : Nat} {es : List Nat} (hds : ds.length = 25)
    (hes : es.length = 25) (ds_lt : ∀ x ∈ ds, x < 32) (es_lt : ∀ x ∈ es, x < 32) :
    BitVec.ofNat 128 (ofDigits 32 (d :: ds)) = BitVec.ofNat 128 (ofDigits 32 (e :: es)) ↔
      d % 8 = e % 8 ∧ ds = es := by
  have hd := ofDigits_lt (by decide) ds_lt
  have he := ofDigits_lt (by decide) es_lt
  have hback : ofDigits 32 ds = ofDigits 32 es → ds = es := by
    intro h
    rw [← toDigits_ofDigits ds_lt, ← toDigits_ofDigits es_lt, h, hds, hes]
  rw [hds] at hd
  rw [hes] at he
  rw [← BitVec.toNat_inj, BitVec.toNat_ofNat, BitVec.toNat_ofNat, ofDigits_cons, ofDigits_cons, hds,
    hes]
  simp only [Nat.reducePow, Nat.pow_eq] at hd he ⊢
  constructor
  · intro h
    exact ⟨by omega, hback (by omega)⟩
  · rintro ⟨h, rfl⟩
    omega

/-- Texts of digits agree if they differ in case only, but for the bits of the first digit that are
dropped. -/
def Agree : List Char → List Char → Prop
  | c :: cs, c' :: cs' =>
      (∃ d d', digitOfChar? c = some d ∧ digitOfChar? c' = some d' ∧ d % 8 = d' % 8) ∧
        cs.map Char.toUpper = cs'.map Char.toUpper
  | _, _ => False

theorem decode_eq_iff {cs' : List Char} (h : IsText cs) (h' : IsText cs') :
    decode (String.ofList cs) = decode (String.ofList cs') ↔ Agree cs cs' := by
  obtain ⟨ds, hds⟩ := exists_digits h.2
  obtain ⟨ds', hds'⟩ := exists_digits h'.2
  have hlength := (length_of_map_eq_map_some hds).symm.trans h.1
  have hlength' := (length_of_map_eq_map_some hds').symm.trans h'.1
  rw [decode_of_digits h.1 hds, decode_of_digits h'.1 hds', Except.ok.injEq]
  cases cs with
  | nil => cases h.1
  | cons c cs =>
      cases cs' with
      | nil => cases h'.1
      | cons c' cs' =>
          obtain ⟨d, ds, rfl⟩ := List.exists_cons_of_length_eq_add_one hlength
          obtain ⟨d', ds', rfl⟩ := List.exists_cons_of_length_eq_add_one hlength'
          have hlt := lt_of_digits hds
          have hlt' := lt_of_digits hds'
          rw [List.map_cons, List.map_cons, List.cons.injEq] at hds hds'
          rw [ofNat_ofDigits_eq_iff (Nat.succ.inj hlength) (Nat.succ.inj hlength')
            (fun x hx => hlt x (List.mem_cons_of_mem d hx))
            (fun x hx => hlt' x (List.mem_cons_of_mem d' hx)), digits_eq_iff hds.2 hds'.2]
          simp [Agree, hds.1, hds'.1]

end Values

end Ulid

namespace Id

variable {kind : IdKind} {s : String}

private theorem exists_parts (s : String) : s = "" ∨ (s ≠ "" ∧ '_' ∉ s.toList) ∨
    ∃ label value, s.toList = String.toList label ++ '_' :: value ∧ '_' ∉ label.toList := by
  by_cases hempty : s = ""
  · exact Or.inl hempty
  · by_cases hmem : '_' ∈ s.toList
    · obtain ⟨label, value, hs, plain⟩ := List.eq_append_cons_of_mem hmem
      refine Or.inr (Or.inr ⟨String.ofList label, value, ?_⟩)
      rw [String.toList_ofList]
      exact ⟨hs, plain⟩
    · exact Or.inr (Or.inl ⟨hempty, hmem⟩)

private theorem parse_unseparated (hne : s ≠ "") (h : '_' ∉ s.toList) :
    (parse s : Except IdError (Id kind)) = .error .missingSeparator := by
  have hplain : ∀ c ∈ s.toList, decide (c ≠ '_') = true := by
    intro c hc
    exact decide_eq_true fun heq => h (heq ▸ hc)
  have hspan : s.toList.span (· ≠ '_') = (s.toList, []) := by
    rw [List.span_eq_takeWhile_dropWhile, List.takeWhile_eq_self_iff.mpr hplain,
      List.dropWhile_eq_nil_iff.mpr hplain]
  rw [parse, if_neg hne]
  simp only [hspan]

private theorem parse_misspelled (kind : IdKind) {cs : List Char} (h : ¬Ulid.IsText cs) :
    ∃ why, (parse (spelling kind cs) : Except IdError (Id kind)) = .error (.invalidUlid why) := by
  rw [parse_spelling]
  cases hdecode : Ulid.decode (String.ofList cs) with
  | ok value => exact absurd (Ulid.exists_decode_iff.mp ⟨value, hdecode⟩) h
  | error why => exact ⟨why, rfl⟩

private theorem parse_spelled (kind : IdKind) {cs : List Char} (h : Ulid.IsText cs) :
    ∃ value, Ulid.decode (String.ofList cs) = .ok value ∧
      (parse (spelling kind cs) : Except IdError (Id kind)) = .ok ⟨value⟩ := by
  obtain ⟨value, hvalue⟩ := Ulid.exists_decode_iff.mpr h
  exact ⟨value, hvalue, by rw [parse_spelling, hvalue]⟩

/-- What becomes of a text, by its form. -/
inductive Verdict (kind : IdKind) : String → Except IdError (Id kind) → Prop where
  | empty : Verdict kind "" (.error .empty)
  | unseparated {s : String} (ne : s ≠ "") (plain : '_' ∉ s.toList) :
      Verdict kind s (.error .missingSeparator)
  | foreign {s label : String} {value : List Char} (plain : '_' ∉ label.toList)
      (parts : s.toList = label.toList ++ '_' :: value) (other : label ≠ kind.label) :
      Verdict kind s (.error (.invalidPrefix kind.label label))
  | misspelled {cs : List Char} {why : Ulid.Error} (notText : ¬Ulid.IsText cs) :
      Verdict kind (spelling kind cs) (.error (.invalidUlid why))
  | spelled {cs : List Char} {id : Id kind} (isText : Ulid.IsText cs) :
      Verdict kind (spelling kind cs) (.ok id)

theorem parse_verdict (kind : IdKind) (s : String) : Verdict kind s (parse s) := by
  rcases exists_parts s with rfl | ⟨hne, hplain⟩ | ⟨label, cs, hs, hplain⟩
  · exact .empty
  · rw [parse_unseparated hne hplain]
    exact .unseparated hne hplain
  · by_cases hlabel : label = kind.label
    · have hspelling : s = spelling kind cs := by
        rw [← String.toList_inj, toList_spelling, hs, hlabel]
      rw [hspelling]
      by_cases h : Ulid.IsText cs
      · obtain ⟨value, -, hparse⟩ := parse_spelled kind h
        rw [hparse]
        exact .spelled h
      · obtain ⟨why, hparse⟩ := parse_misspelled kind h
        rw [hparse]
        exact .misspelled h
    · rw [parse_separated hplain hs, if_pos hlabel]
      exact .foreign hplain hs hlabel

private theorem verdict_of_parse_eq {result : Except IdError (Id kind)} (h : parse s = result) :
    Verdict kind s result := h ▸ parse_verdict kind s

theorem exists_parse_iff :
    (∃ id : Id kind, parse s = .ok id) ↔ ∃ cs, Ulid.IsText cs ∧ s = spelling kind cs := by
  constructor
  · rintro ⟨id, h⟩
    cases verdict_of_parse_eq h with
    | spelled isText => exact ⟨_, isText, rfl⟩
  · rintro ⟨cs, isText, rfl⟩
    obtain ⟨value, -, h⟩ := parse_spelled kind isText
    exact ⟨⟨value⟩, h⟩

theorem parse_eq_empty_iff :
    (parse s : Except IdError (Id kind)) = .error .empty ↔ s = "" := by
  constructor
  · intro h
    cases verdict_of_parse_eq h
    rfl
  · rintro rfl
    rfl

theorem parse_eq_missingSeparator_iff :
    (parse s : Except IdError (Id kind)) = .error .missingSeparator ↔
      s ≠ "" ∧ '_' ∉ s.toList := by
  constructor
  · intro h
    cases verdict_of_parse_eq h with
    | unseparated ne plain => exact ⟨ne, plain⟩
  · rintro ⟨ne, plain⟩
    exact parse_unseparated ne plain

theorem parse_eq_invalidPrefix_iff {expected found : String} :
    (parse s : Except IdError (Id kind)) = .error (.invalidPrefix expected found) ↔
      expected = kind.label ∧ found ≠ kind.label ∧ '_' ∉ found.toList ∧
        ∃ value, s.toList = found.toList ++ '_' :: value := by
  constructor
  · intro h
    cases verdict_of_parse_eq h with
    | foreign plain parts other => exact ⟨rfl, other, plain, _, parts⟩
  · rintro ⟨rfl, other, plain, value, parts⟩
    rw [parse_separated plain parts, if_pos other]

theorem parse_eq_invalidUlid_iff :
    (∃ why, (parse s : Except IdError (Id kind)) = .error (.invalidUlid why)) ↔
      ∃ cs, ¬Ulid.IsText cs ∧ s = spelling kind cs := by
  constructor
  · rintro ⟨why, h⟩
    cases verdict_of_parse_eq h with
    | misspelled notText => exact ⟨_, notText, rfl⟩
  · rintro ⟨cs, notText, rfl⟩
    exact parse_misspelled kind notText

theorem parse_spelling_eq_iff {cs cs' : List Char} (h : Ulid.IsText cs) (h' : Ulid.IsText cs') :
    (parse (spelling kind cs) : Except IdError (Id kind)) = parse (spelling kind cs') ↔
      Ulid.Agree cs cs' := by
  obtain ⟨value, hvalue, hparse⟩ := parse_spelled kind h
  obtain ⟨value', hvalue', hparse'⟩ := parse_spelled kind h'
  rw [← Ulid.decode_eq_iff h h', hparse, hparse', hvalue, hvalue']
  simp

example : (parse "match_80000000000000000000000000" : Except IdError MatchId) =
    parse "match_00000000000000000000000000" := rfl

/-- No text names both a match and a message. -/
theorem spelling_ne {other : IdKind} (h : other ≠ kind) (cs cs' : List Char) :
    spelling kind cs ≠ spelling other cs' := by
  intro heq
  have hchars := congrArg String.toList heq
  rw [toList_spelling, toList_spelling] at hchars
  cases kind <;> cases other <;> first | exact h rfl | simp [IdKind.label] at hchars

/-- An identifier is read from a text of a document, however it is escaped, as from the text. -/
theorem run_reader_eq_ok_iff {body ws rest : List UInt8} (spells : Spells body s.toList)
    (before : Blank ws) (after : Blank rest) {id : Id kind} :
    Id.reader.run (ws ++ (quote body ++ rest)) = .ok id ↔ parse s = .ok id := by
  rw [Id.reader, run_named_eq_ok_iff spells before after, String.ofList_toList]
  cases (parse s : Except IdError (Id kind)) <;> simp [Except.mapError]

structure Grammar (kind : IdKind) : Prop where
  written : ∀ id : Id kind, parse id.text = .ok id
  accepted : ∀ s, (∃ id : Id kind, parse s = .ok id) ↔
    ∃ cs, Ulid.IsText cs ∧ s = spelling kind cs
  empty : ∀ s, (parse s : Except IdError (Id kind)) = .error .empty ↔ s = ""
  missingSeparator : ∀ s, (parse s : Except IdError (Id kind)) = .error .missingSeparator ↔
    s ≠ "" ∧ '_' ∉ s.toList
  invalidPrefix : ∀ s expected found,
    (parse s : Except IdError (Id kind)) = .error (.invalidPrefix expected found) ↔
      expected = kind.label ∧ found ≠ kind.label ∧ '_' ∉ found.toList ∧
        ∃ value, s.toList = found.toList ++ '_' :: value
  invalidUlid : ∀ s, (∃ why, (parse s : Except IdError (Id kind)) = .error (.invalidUlid why)) ↔
    ∃ cs, ¬Ulid.IsText cs ∧ s = spelling kind cs
  same : ∀ cs cs', Ulid.IsText cs → Ulid.IsText cs' →
    ((parse (spelling kind cs) : Except IdError (Id kind)) = parse (spelling kind cs') ↔
      Ulid.Agree cs cs')
  apart : ∀ s (id : Id kind), parse s = .ok id →
    ∀ other, other ≠ kind → ∀ id' : Id other, parse s ≠ .ok id'
  escaped : ∀ s body, Spells body s.toList → ∀ ws rest, Blank ws → Blank rest → ∀ id : Id kind,
    Id.reader.run (ws ++ (quote body ++ rest)) = .ok id ↔ parse s = .ok id

/-- The texts of both kinds of identifiers. -/
theorem texts_exact (kind : IdKind) : Grammar kind where
  written := parse_text
  accepted _ := exists_parse_iff
  empty _ := parse_eq_empty_iff
  missingSeparator _ := parse_eq_missingSeparator_iff
  invalidPrefix _ _ _ := parse_eq_invalidPrefix_iff
  invalidUlid _ := parse_eq_invalidUlid_iff
  same _ _ := parse_spelling_eq_iff
  apart := by
    intro s id h other hne id' h'
    obtain ⟨cs, -, hs⟩ := exists_parse_iff.mp ⟨id, h⟩
    obtain ⟨cs', -, hs'⟩ := exists_parse_iff.mp ⟨id', h'⟩
    exact spelling_ne hne cs cs' (hs.symm.trans hs')
  escaped _ _ spells _ _ before after _ := run_reader_eq_ok_iff spells before after

end Id

end Matchmaking
