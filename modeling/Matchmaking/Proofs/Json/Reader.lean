import Mathlib.Data.List.Forall2
import Matchmaking.Json.Reader
import Matchmaking.Proofs.Json.Skip

/-!
# What readers take

A reader takes a value of the form or refuses it, whatever blanks stand before the value and
whatever follows it. For each reader, the values that it takes and what it makes of them.
-/

namespace Matchmaking.Json

namespace Reader

variable {α β : Type} {read : Reader α} {v ws rest bs : List UInt8} {a : α} {b : UInt8}

/-! ## Steps -/

theorem bind_of_ok {f : α → Reader β} (h : read bs = .ok (a, rest)) :
    (read >>= f) bs = f a rest := by
  show (read bs >>= fun r => f r.1 r.2) = _
  rw [h]
  rfl

theorem bind_of_error {f : α → Reader β} {e : Failure} (h : read bs = .error e) :
    (read >>= f) bs = .error e := by
  show (read bs >>= fun r => f r.1 r.2) = _
  rw [h]
  rfl

theorem pure_apply (a : α) (bs : List UInt8) : (pure a : Reader α) bs = .ok (a, bs) := rfl

theorem peek_bind_append {f : Option UInt8 → Reader β} (blank : Blank ws) :
    (peek >>= f) (ws ++ bs) = (peek >>= f) bs := by
  show f (dropSpace (ws ++ bs)).head? (dropSpace (ws ++ bs)) = f _ _
  rw [dropSpace_append blank]

theorem peek_bind_cons {f : Option UInt8 → Reader β} (h : isSpace b = false) :
    (peek >>= f) (b :: bs) = f (some b) (b :: bs) := by
  show f (dropSpace (b :: bs)).head? (dropSpace (b :: bs)) = _
  rw [dropSpace_cons h]
  rfl

/-- A reader that looks at the next byte sees the first of a value. -/
theorem peek_bind_heads {f : Option UInt8 → Reader β} {g : Reader β} (blank : Blank ws)
    (heads : Heads b v) (h : f (some b) = g) :
    (peek >>= f) (ws ++ (v ++ rest)) = g (v ++ rest) := by
  obtain ⟨tail, rfl⟩ := heads.cons
  rw [peek_bind_append blank, List.cons_append, peek_bind_cons heads.not_space, h]

theorem advance_bind {f : Unit → Reader β} : (advance >>= f) (b :: bs) = f () bs := rfl

theorem mismatch_apply (expected : String) (bs : List UInt8) :
    ∃ e, (mismatch expected : Reader α) bs = .error e := by
  cases h : found bs with
  | ok r => exact ⟨_, bind_of_ok h⟩
  | error e => exact ⟨e, bind_of_error h⟩

/-! ## Values taken and refused -/

/-- A value is taken off the front of a document and makes something. -/
def Reads (read : Reader α) (v : List UInt8) (a : α) : Prop :=
  ∀ ws rest : List UInt8, Blank ws → Follows rest → read (ws ++ (v ++ rest)) = .ok (a, rest)

def Refuses (read : Reader α) (v : List UInt8) : Prop :=
  ∀ ws rest : List UInt8, Blank ws → Follows rest → ∃ e, read (ws ++ (v ++ rest)) = .error e

/-- A reader takes or refuses a value by the value alone. -/
def Decides (read : Reader α) : Prop :=
  ∀ v : List UInt8, IsValue v → (∃ a, Reads read v a) ∨ Refuses read v

theorem Reads.eq {a' : α} (h : Reads read v a) (h' : Reads read v a') : a = a' := by
  have hboth := (h [] [] blank_nil follows_nil).symm.trans (h' [] [] blank_nil follows_nil)
  injection hboth with hboth
  exact congrArg Prod.fst hboth

theorem Reads.run (h : Reads read v a) : read.run v = .ok a := by
  have hread := h [] [] blank_nil follows_nil
  rw [List.nil_append, List.append_nil] at hread
  rw [Reader.run, hread]
  rfl

theorem Refuses.not_reads (h : Refuses read v) : ¬Reads read v a := by
  intro hreads
  obtain ⟨e, he⟩ := h [] [] blank_nil follows_nil
  rw [hreads [] [] blank_nil follows_nil] at he
  cases he

/-- What is known of the values that a reader takes holds of what it reads. -/
theorem Reads.of_cases {P : α → Prop} (h : Reads read v a)
    (cases : (∃ b, P b ∧ Reads read v b) ∨ Refuses read v) : P a := by
  rcases cases with ⟨b, hb, hreads⟩ | hrefuses
  · rwa [h.eq hreads]
  · exact absurd h hrefuses.not_reads

/-- A value with nothing but blanks around it is a document. -/
theorem Decides.run_eq_ok_iff (h : Decides read) (value : IsValue v) (before : Blank ws)
    (after : Blank rest) : read.run (ws ++ (v ++ rest)) = .ok a ↔ Reads read v a := by
  have follows : Follows rest := by
    rw [← List.append_nil rest]
    exact after.follows follows_nil
  constructor
  · intro hrun
    rcases h v value with ⟨b, hb⟩ | hrefuses
    · rw [run, hb _ _ before follows] at hrun
      simp only [dropSpace_eq_nil after, List.isEmpty_nil, if_true] at hrun
      cases hrun
      exact hb
    · obtain ⟨e, he⟩ := hrefuses _ _ before follows
      rw [run, he] at hrun
      cases hrun
  · intro hreads
    rw [run, hreads _ _ before follows]
    simp only [dropSpace_eq_nil after, List.isEmpty_nil, if_true]

theorem Decides.run_eq_ok_iff_reads (h : Decides read) (value : IsValue v) :
    read.run v = .ok a ↔ Reads read v a := by
  have hrun := h.run_eq_ok_iff (a := a) value blank_nil blank_nil
  rwa [List.nil_append, List.append_nil] at hrun

/-- A value makes what the reader's content is mapped to. -/
theorem Reads.map (h : Reads read v a) (f : α → β) :
    Reads (do return f (← read)) v (f a) := by
  intro ws rest blank follows
  rw [bind_of_ok (h _ _ blank follows), pure_apply]

theorem Refuses.bind (h : Refuses read v) (f : α → Reader β) : Refuses (read >>= f) v := by
  intro ws rest blank follows
  obtain ⟨e, he⟩ := h _ _ blank follows
  exact ⟨e, bind_of_error he⟩

theorem Decides.map (h : Decides read) (f : α → β) : Decides (do return f (← read)) := by
  intro v value
  refine (h v value).imp (fun ⟨a, ha⟩ => ⟨f a, ha.map f⟩) fun hrefuses => hrefuses.bind _

theorem Decides.reads_map_iff (h : Decides read) (value : IsValue v) {f : α → β} {b : β} :
    Reads (do return f (← read)) v b ↔ ∃ a, Reads read v a ∧ f a = b := by
  constructor
  · intro hb
    rcases h v value with ⟨a, ha⟩ | hrefuses
    · exact ⟨a, ha, (ha.map f).eq hb⟩
    · exact absurd hb (hrefuses.bind _).not_reads
  · rintro ⟨a, ha, rfl⟩
    exact ha.map f

theorem refuses_of_mismatch {f : Option UInt8 → Reader β} (expected : String)
    (heads : Heads b v) (h : f (some b) = mismatch expected) : Refuses (peek >>= f) v := by
  intro ws rest blank _
  rw [peek_bind_heads blank heads h]
  exact mismatch_apply expected _

/-! ## Texts -/

section Texts

variable {expected s : String} {body : List UInt8} {cs : List Char}
  {parse : String → Except String α}

theorem quote_append (body rest : List UInt8) :
    quote body ++ rest = 0x22 :: (body ++ 0x22 :: rest) := by
  rw [quote, List.cons_append, List.append_assoc, List.singleton_append]

private theorem textFor_quote (blank : Blank ws) :
    textFor expected (ws ++ (quote body ++ rest)) =
      scanning readTextBody (body ++ 0x22 :: rest) := by
  have hquote : isSpace 0x22 = false := by decide
  rw [textFor, peek_bind_append blank, quote_append, peek_bind_cons hquote]
  rfl

theorem reads_textFor (h : Spells body cs) :
    Reads (textFor expected) (quote body) (String.ofList cs) := by
  intro ws rest blank _
  rw [textFor_quote blank, scanning, readTextBody_of_spells h]

private theorem textFor_cases (expected : String) (value : IsValue v) :
    (∃ s, (∃ body, v = quote body ∧ Spells body s.toList) ∧ Reads (textFor expected) v s) ∨
      Refuses (textFor expected) v := by
  obtain ⟨b, heads⟩ := value.exists_heads
  by_cases hb : b = 0x22
  · obtain ⟨body, isTextBody, rfl⟩ := heads.text hb
    refine (spelled_or_unreadable isTextBody).imp ?_ ?_
    · rintro ⟨cs, hcs⟩
      exact ⟨_, ⟨body, rfl, by rwa [String.toList_ofList]⟩, reads_textFor hcs⟩
    · intro hfails ws rest blank _
      obtain ⟨e, he⟩ := hfails rest
      exact ⟨_, by rw [textFor_quote blank, scanning, he]⟩
  · refine Or.inr (refuses_of_mismatch expected heads ?_)
    split
    · rename_i h
      exact absurd (Option.some.inj h) hb
    · contradiction
    · rfl

theorem textFor_decides (expected : String) : Decides (textFor expected) :=
  fun _ value => (textFor_cases expected value).imp_left fun ⟨s, _, hs⟩ => ⟨s, hs⟩

theorem text_decides : Decides text := textFor_decides "a string"

/-- A text is read as the characters that are written, and only a text is. -/
theorem reads_textFor_iff (value : IsValue v) :
    Reads (textFor expected) v s ↔ ∃ body, v = quote body ∧ Spells body s.toList := by
  refine ⟨fun h => h.of_cases (textFor_cases expected value), ?_⟩
  rintro ⟨body, rfl, hspells⟩
  have hreads : Reads (textFor expected) (quote body) _ := reads_textFor hspells
  rwa [String.ofList_toList] at hreads

/-- A text that names a value is read as that value if its rules take it. -/
theorem Reads.named {text : String} (h : Reads (textFor expected) v text)
    (parsed : parse text = .ok a) : Reads (named expected parse) v a := by
  intro ws rest blank follows
  rw [Reader.named, bind_of_ok (h _ _ blank follows)]
  simp only [parsed]
  rfl

private theorem named_cases (value : IsValue v) :
    (∃ a, (∃ text, Reads (textFor expected) v text ∧ parse text = .ok a) ∧
      Reads (named expected parse) v a) ∨ Refuses (named expected parse) v := by
  rcases textFor_decides expected v value with ⟨text, htext⟩ | hrefuses
  · cases hparse : parse text with
    | ok a => exact Or.inl ⟨a, ⟨text, htext, hparse⟩, htext.named hparse⟩
    | error why =>
        refine Or.inr fun ws rest blank follows => ⟨⟨[], .refused why⟩, ?_⟩
        rw [Reader.named, bind_of_ok (htext _ _ blank follows)]
        simp only [hparse]
        rfl
  · exact Or.inr (hrefuses.bind _)

theorem named_decides : Decides (named expected parse) :=
  fun _ value => (named_cases value).imp_left fun ⟨a, _, ha⟩ => ⟨a, ha⟩

theorem reads_named_iff (value : IsValue v) :
    Reads (named expected parse) v a ↔
      ∃ text, Reads (textFor expected) v text ∧ parse text = .ok a := by
  refine ⟨fun h => h.of_cases (named_cases value), ?_⟩
  rintro ⟨text, htext, hparse⟩
  exact htext.named hparse

/-- What a text names does not depend on how the text is escaped. -/
theorem run_named_eq_ok_iff (spells : Spells body cs) (before : Blank ws) (after : Blank rest) :
    (named expected parse).run (ws ++ (quote body ++ rest)) = .ok a ↔
      parse (String.ofList cs) = .ok a := by
  have value : IsValue (quote body) := .text spells.isTextBody
  have htext : Reads (textFor expected) (quote body) (String.ofList cs) := reads_textFor spells
  rw [named_decides.run_eq_ok_iff value before after, reads_named_iff value]
  constructor
  · rintro ⟨text, htext', hparse⟩
    rwa [htext'.eq htext] at hparse
  · intro hparse
    exact ⟨_, htext, hparse⟩

end Texts

/-! ## Words and numbers -/

section Scalars

theorem passing_readWord (word rest : List UInt8) :
    passing (readWord word) (word ++ rest) = .ok ((), rest) := by
  simp only [passing, scanning, readWord_append, Except.map]

theorem reads_flag (b : Bool) : Reads flag (flagBytes b) b := by
  intro ws rest blank _
  rw [flag, peek_bind_append blank]
  cases b with
  | true =>
      have hspace : isSpace 0x74 = false := by decide
      rw [flagBytes, if_pos rfl, List.cons_append, peek_bind_cons hspace]
      show (advance >>= fun _ => passing (readWord trueTail) >>= fun _ => pure true) _ = _
      rw [advance_bind, bind_of_ok (passing_readWord trueTail rest)]
      rfl
  | false =>
      have hspace : isSpace 0x66 = false := by decide
      rw [flagBytes, if_neg Bool.false_ne_true, List.cons_append, peek_bind_cons hspace]
      show (advance >>= fun _ => passing (readWord falseTail) >>= fun _ => pure false) _ = _
      rw [advance_bind, bind_of_ok (passing_readWord falseTail rest)]
      rfl

private theorem flag_cases (value : IsValue v) :
    (∃ b, v = flagBytes b ∧ Reads flag v b) ∨ Refuses flag v := by
  obtain ⟨b, heads⟩ := value.exists_heads
  by_cases hb : b = 0x74 ∨ b = 0x66
  · obtain rfl := heads.flag hb
    exact Or.inl ⟨_, rfl, reads_flag _⟩
  · rw [not_or] at hb
    refine Or.inr (refuses_of_mismatch "a boolean" heads ?_)
    split
    · rename_i h
      exact absurd (Option.some.inj h) hb.1
    · rename_i h
      exact absurd (Option.some.inj h) hb.2
    · contradiction
    · rfl

theorem flag_decides : Decides flag :=
  fun _ value => (flag_cases value).imp_left fun ⟨b, _, hb⟩ => ⟨b, hb⟩

variable {least most n : Int} {expected : String} {t : NumberText}

private theorem integer_isNumber (number : IsNumber t v) (blank : Blank ws)
    (follows : Follows rest) :
    integer least most expected (ws ++ (v ++ rest)) =
      match t.value with
      | .error e => .error ⟨[], .flaw e⟩
      | .ok (.integer n) =>
        if least ≤ n ∧ n ≤ most then .ok (n, rest) else .error ⟨[], .wrongValue n expected⟩
      | .ok (.float x) => .error ⟨[], .wrongType (.float x) expected⟩ := by
  obtain ⟨b, heads, hb⟩ := number.exists_heads
  rw [integer, peek_bind_heads blank heads (if_pos hb)]
  have hread := readNumber_append number follows.endsNumber
  cases hvalue : t.value with
  | error e =>
      have hscan : scanning readNumber (v ++ rest) = .error ⟨[], .flaw e⟩ := by
        simp only [scanning, hread, hvalue, Except.map]
      rw [bind_of_error hscan]
  | ok x =>
      have hscan : scanning readNumber (v ++ rest) = .ok (x, rest) := by
        simp only [scanning, hread, hvalue, Except.map]
      rw [bind_of_ok hscan]
      cases x with
      | float x => rfl
      | integer n =>
          dsimp only
          split <;> rfl

theorem reads_integer (number : IsNumber t v) (kept : t.value = .ok (.integer n))
    (bounds : least ≤ n ∧ n ≤ most) : Reads (integer least most expected) v n := by
  intro ws rest blank follows
  simp only [integer_isNumber number blank follows, kept, if_pos bounds]

private theorem integer_cases (value : IsValue v) :
    (∃ n, (∃ t, IsNumber t v ∧ t.value = .ok (.integer n) ∧ least ≤ n ∧ n ≤ most) ∧
      Reads (integer least most expected) v n) ∨ Refuses (integer least most expected) v := by
  obtain ⟨b, heads⟩ := value.exists_heads
  by_cases hb : b = 0x2D ∨ isDigit b = true
  · obtain ⟨t, number⟩ := heads.number hb
    cases hvalue : t.value with
    | error e =>
        refine Or.inr fun ws rest blank follows => ⟨⟨[], .flaw e⟩, ?_⟩
        simp only [integer_isNumber number blank follows, hvalue]
    | ok x =>
        cases x with
        | float x =>
            refine Or.inr fun ws rest blank follows => ⟨⟨[], .wrongType (.float x) expected⟩, ?_⟩
            simp only [integer_isNumber number blank follows, hvalue]
        | integer n =>
            by_cases bounds : least ≤ n ∧ n ≤ most
            · exact Or.inl ⟨n, ⟨t, number, hvalue, bounds⟩, reads_integer number hvalue bounds⟩
            · refine Or.inr fun ws rest blank follows => ⟨⟨[], .wrongValue n expected⟩, ?_⟩
              simp only [integer_isNumber number blank follows, hvalue, if_neg bounds]
  · exact Or.inr (refuses_of_mismatch expected heads (if_neg hb))

theorem integer_decides : Decides (integer least most expected) :=
  fun _ value => (integer_cases value).imp_left fun ⟨n, _, hn⟩ => ⟨n, hn⟩

/-- A number is read as an integer if it is written as one and within the bounds. -/
theorem reads_integer_iff (value : IsValue v) :
    Reads (integer least most expected) v n ↔
      ∃ t, IsNumber t v ∧ t.value = .ok (.integer n) ∧ least ≤ n ∧ n ≤ most := by
  refine ⟨fun h => h.of_cases (integer_cases value), ?_⟩
  rintro ⟨t, number, kept, bounds⟩
  exact reads_integer number kept bounds

theorem reads_uint16_iff (value : IsValue v) {n : UInt16} :
    Reads uint16 v n ↔ ∃ t, IsNumber t v ∧ t.value = .ok (.integer n.toNat) := by
  have hn : n.toNat < 65536 := n.toNat_lt
  refine (integer_decides.reads_map_iff value).trans ⟨?_, ?_⟩
  · rintro ⟨k, hk, rfl⟩
    obtain ⟨t, number, kept, bounds⟩ := (reads_integer_iff value).mp hk
    refine ⟨t, number, ?_⟩
    rw [kept, UInt16.toNat_ofNat', Nat.mod_eq_of_lt (by omega), Int.toNat_of_nonneg bounds.1]
  · rintro ⟨t, number, kept⟩
    refine ⟨n.toNat, reads_integer number kept ⟨by omega, by omega⟩, ?_⟩
    rw [Int.toNat_natCast, UInt16.ofNat_toNat]

theorem reads_int32_iff (value : IsValue v) {n : Int32} :
    Reads int32 v n ↔ ∃ t, IsNumber t v ∧ t.value = .ok (.integer n.toInt) := by
  have hlt := n.toInt_lt
  have hge := n.le_toInt
  refine (integer_decides.reads_map_iff value).trans ⟨?_, ?_⟩
  · rintro ⟨k, hk, rfl⟩
    obtain ⟨t, number, kept, bounds⟩ := (reads_integer_iff value).mp hk
    refine ⟨t, number, ?_⟩
    simp only [Number.mostSigned32] at bounds
    rw [kept, Int32.toInt_ofInt_of_le (by omega) (by omega)]
  · rintro ⟨t, number, kept⟩
    refine ⟨n.toInt, reads_integer number kept ?_, Int32.ofInt_toInt n⟩
    simp only [Number.mostSigned32]
    omega

theorem reads_int64_iff (value : IsValue v) {n : Int64} :
    Reads int64 v n ↔ ∃ t, IsNumber t v ∧ t.value = .ok (.integer n.toInt) := by
  have hlt := n.toInt_lt
  have hge := n.le_toInt
  refine (integer_decides.reads_map_iff value).trans ⟨?_, ?_⟩
  · rintro ⟨k, hk, rfl⟩
    obtain ⟨t, number, kept, bounds⟩ := (reads_integer_iff value).mp hk
    refine ⟨t, number, ?_⟩
    simp only [Number.mostSigned64] at bounds
    rw [kept, Int64.toInt_ofInt_of_le (by omega) (by omega)]
  · rintro ⟨t, number, kept⟩
    refine ⟨n.toInt, reads_integer number kept ?_, Int64.ofInt_toInt n⟩
    simp only [Number.mostSigned64]
    omega

/-- An integer is read as the one that is written, or not at all. -/
theorem toInt_of_reads_int32 {k : Int} (h : IsInteger k v) {n : Int32} (reads : Reads int32 v n) :
    n.toInt = k := by
  obtain ⟨t, number⟩ := h.exists_isNumber
  obtain ⟨t', number', kept⟩ := (reads_int32_iff (.number number)).mp reads
  exact h.eq_of_value number' kept

theorem uint16_decides : Decides uint16 := integer_decides.map _

theorem int32_decides : Decides int32 := integer_decides.map _

theorem int64_decides : Decides int64 := integer_decides.map _

end Scalars

/-! ## Values that may be missing -/

section Optional

theorem reads_optional_null : Reads (optional read) nullBytes none := by
  intro ws rest blank _
  have hspace : isSpace 0x6E = false := by decide
  rw [optional, peek_bind_append blank, nullBytes, List.cons_append, peek_bind_cons hspace]
  show (advance >>= fun _ => passing (readWord nullTail) >>= fun _ => pure none) _ = _
  rw [advance_bind, bind_of_ok (passing_readWord nullTail rest)]
  rfl

private theorem optional_of_ne (heads : Heads b v) (hb : b ≠ 0x6E) (blank : Blank ws) :
    optional read (ws ++ (v ++ rest)) = (do return some (← read)) ([] ++ (v ++ rest)) := by
  refine peek_bind_heads blank heads ?_
  split
  · rename_i h
    exact absurd (Option.some.inj h) hb
  · rfl

private theorem optional_cases (h : Decides read) (value : IsValue v) :
    (∃ o, (v = nullBytes ∧ o = none ∨ v ≠ nullBytes ∧ ∃ a, o = some a ∧ Reads read v a) ∧
      Reads (optional read) v o) ∨ Refuses (optional read) v := by
  obtain ⟨b, heads⟩ := value.exists_heads
  by_cases hb : b = 0x6E
  · obtain rfl := heads.null hb
    exact Or.inl ⟨none, Or.inl ⟨rfl, rfl⟩, reads_optional_null⟩
  · have hnull := heads.ne_null hb
    refine (h v value).imp ?_ ?_
    · rintro ⟨a, ha⟩
      refine ⟨some a, Or.inr ⟨hnull, a, rfl, ha⟩, fun ws rest blank follows => ?_⟩
      rw [optional_of_ne heads hb blank]
      exact ha.map some _ _ blank_nil follows
    · intro hrefuses ws rest blank follows
      rw [optional_of_ne heads hb blank]
      exact hrefuses.bind _ _ _ blank_nil follows

theorem Decides.optional (h : Decides read) : Decides (Reader.optional read) :=
  fun _ value => (optional_cases h value).imp_left fun ⟨o, _, ho⟩ => ⟨o, ho⟩

/-- The value `null` is read as nothing, any other by its reader. -/
theorem reads_optional_iff (h : Decides read) (value : IsValue v) {o : Option α} :
    Reads (Reader.optional read) v o ↔
      v = nullBytes ∧ o = none ∨ v ≠ nullBytes ∧ ∃ a, o = some a ∧ Reads read v a := by
  refine ⟨fun ho => ho.of_cases (optional_cases h value), ?_⟩
  rintro (⟨rfl, rfl⟩ | ⟨hnull, a, rfl, ha⟩)
  · exact reads_optional_null
  · obtain ⟨b, heads⟩ := value.exists_heads
    intro ws rest blank follows
    rw [optional_of_ne heads (fun hb => hnull (heads.null hb)) blank]
    exact ha.map some _ _ blank_nil follows

end Optional

/-! ## Lists -/

section Lists

variable {parts : List Part} {p : Part} {as : List α}

theorem within_of_ok (step : Step) (h : read bs = .ok (a, rest)) :
    within step read bs = .ok (a, rest) := by
  simp only [within, h]

theorem within_of_error (step : Step) {e : Failure} (h : read bs = .error e) :
    within step read bs = .error { e with path := step :: e.path } := by
  simp only [within, h]

/-- The bytes of the parts of a list after a first one, and the end of the list. -/
def listTail (parts : List Part) (rest : List UInt8) : List UInt8 :=
  (parts.map Part.bytes).flatMap (0x2C :: ·) ++ 0x5D :: rest

theorem follows_listTail (parts : List Part) (rest : List UInt8) :
    Follows (listTail parts rest) := by
  cases parts with
  | nil => exact follows_cons (by decide)
  | cons p parts => exact follows_cons (Or.inl rfl)

/-- A reader stands before the parts of a list that are left, or before its end: the next part
begins with its value, and only without parts the list ends. -/
inductive AtParts (first : Bool) : List Part → List UInt8 → List UInt8 → Prop where
  | nil {rest bs : List UInt8} (more : moreItems first bs = .ok (false, 0x5D :: rest))
      (finish : endList bs = .ok ((), rest)) : AtParts first [] rest bs
  | cons {p : Part} {parts : List Part} {rest bs : List UInt8}
      (more : moreItems first bs = .ok (true, p.value ++ (p.after ++ listTail parts rest)))
      (finish : ∃ e, endList bs = .error e) : AtParts first (p :: parts) rest bs

theorem AtParts.moreItems {first : Bool} (h : AtParts first (p :: parts) rest bs) :
    moreItems first bs = .ok (true, p.value ++ (p.after ++ listTail parts rest)) := by
  cases h with
  | cons more => exact more

theorem atParts_nil (blank : Blank ws) (first : Bool) (rest : List UInt8) :
    AtParts first [] rest (ws ++ 0x5D :: rest) := by
  have hspace : isSpace 0x5D = false := by decide
  refine .nil ?_ ?_
  · rw [moreItems, peek_bind_append blank, peek_bind_cons hspace]
    rfl
  · rw [endList, peek_bind_append blank, peek_bind_cons hspace]
    rfl

theorem atParts_first {lead : List UInt8} (blank : Blank lead) (spaced : ∀ p ∈ parts, p.Spaced)
    (values : ∀ p ∈ parts, IsValue p.value) (rest : List UInt8) :
    AtParts true parts rest (lead ++ (separated (parts.map Part.bytes) ++ 0x5D :: rest)) := by
  cases parts with
  | nil => exact atParts_nil blank true rest
  | cons p parts =>
      obtain ⟨b, heads⟩ := (values p List.mem_cons_self).exists_heads
      have hbytes : lead ++ (separated ((p :: parts).map Part.bytes) ++ 0x5D :: rest) =
          (lead ++ p.before) ++ (p.value ++ (p.after ++ listTail parts rest)) := by
        simp [separated, Part.bytes, listTail]
      have hblank := blank.append (spaced p List.mem_cons_self).before
      rw [hbytes]
      refine .cons (peek_bind_heads (g := pure true) hblank heads ?_)
        ⟨_, peek_bind_heads (g := reject .trailingCharacters) hblank heads ?_⟩
      · split
        · contradiction
        · rename_i h
          exact absurd (Option.some.inj h) heads.ne_listEnd
        · rfl
      · split
        · contradiction
        · rename_i h
          exact absurd (Option.some.inj h) heads.ne_listEnd
        · rename_i h
          exact absurd (Option.some.inj h) heads.ne_comma
        · rfl

theorem atParts_next (blank : Blank ws) (spaced : ∀ p ∈ parts, p.Spaced)
    (values : ∀ p ∈ parts, IsValue p.value) (rest : List UInt8) :
    AtParts false parts rest (ws ++ listTail parts rest) := by
  cases parts with
  | nil => exact atParts_nil blank false rest
  | cons p parts =>
      obtain ⟨b, heads⟩ := (values p List.mem_cons_self).exists_heads
      have hspace : isSpace 0x2C = false := by decide
      have hbytes : ws ++ listTail (p :: parts) rest =
          ws ++ 0x2C :: (p.before ++ (p.value ++ (p.after ++ listTail parts rest))) := by
        simp [Part.bytes, listTail]
      have hblank := (spaced p List.mem_cons_self).before
      rw [hbytes]
      refine .cons ?_ ⟨⟨[], .flaw .trailingCharacters⟩, ?_⟩
      · rw [moreItems, peek_bind_append blank, peek_bind_cons hspace]
        show (advance >>= fun _ => peek >>= _) _ = _
        rw [advance_bind]
        refine peek_bind_heads (g := pure true) hblank heads ?_
        split
        · contradiction
        · rename_i h
          exact absurd (Option.some.inj h) heads.ne_listEnd
        · rfl
      · rw [endList, peek_bind_append blank, peek_bind_cons hspace]
        show (advance >>= fun _ => peek >>= _) _ = _
        rw [advance_bind]
        refine peek_bind_heads (g := reject .trailingCharacters) hblank heads ?_
        split
        · rename_i h
          exact absurd (Option.some.inj h) heads.ne_listEnd
        · rfl

private theorem items_of_reads {fuel index : Nat} (spaced : p.Spaced) (reads : Reads read p.value a)
    (hat : AtParts (index = 0) (p :: parts) rest bs) :
    items read (fuel + 1) index bs =
      (do return a :: (← items read fuel (index + 1))) (p.after ++ listTail parts rest) := by
  have follows := spaced.after.follows (follows_listTail parts rest)
  rw [items, bind_of_ok hat.moreItems]
  exact bind_of_ok (within_of_ok _ (reads [] _ blank_nil follows))

private theorem items_of_refuses {fuel index : Nat} (spaced : p.Spaced)
    (refuses : Refuses read p.value) (hat : AtParts (index = 0) (p :: parts) rest bs) :
    ∃ e, items read fuel index bs = .error e := by
  cases fuel with
  | zero => exact ⟨_, rfl⟩
  | succ fuel =>
      have follows := spaced.after.follows (follows_listTail parts rest)
      obtain ⟨e, he⟩ := refuses [] _ blank_nil follows
      rw [items, bind_of_ok hat.moreItems]
      exact ⟨_, bind_of_error (within_of_error _ he)⟩

/-- Parts that are all taken are read one after another; one that is refused ends the reading. -/
private theorem items_cases (h : Decides read) (spaced : ∀ p ∈ parts, p.Spaced)
    (values : ∀ p ∈ parts, IsValue p.value) :
    (∃ as, List.Forall₂ (fun p a => Reads read p.value a) parts as ∧
      ∀ fuel index rest bs, parts.length < fuel → AtParts (index = 0) parts rest bs →
        items read fuel index bs = .ok (as, 0x5D :: rest)) ∨
    (∀ as, ¬List.Forall₂ (fun p a => Reads read p.value a) parts as) ∧
      ∀ fuel index rest bs, AtParts (index = 0) parts rest bs →
        ∃ e, items read fuel index bs = .error e := by
  induction parts with
  | nil =>
      refine Or.inl ⟨[], .nil, fun fuel index rest bs hfuel hat => ?_⟩
      obtain ⟨fuel, rfl⟩ := Nat.exists_eq_succ_of_ne_zero (Nat.ne_of_gt hfuel)
      cases hat with
      | nil more => exact bind_of_ok more
  | cons p parts ih =>
      have hspaced := spaced p List.mem_cons_self
      have hspaced' := fun q hq => spaced q (List.mem_cons_of_mem p hq)
      have hvalues' := fun q hq => values q (List.mem_cons_of_mem p hq)
      have hnext := atParts_next hspaced.after hspaced' hvalues'
      rcases h _ (values p List.mem_cons_self) with ⟨a, ha⟩ | hrefuses
      · refine (ih hspaced' hvalues').imp ?_ ?_
        · rintro ⟨as, hall, hitems⟩
          refine ⟨a :: as, .cons ha hall, fun fuel index rest bs hfuel hat => ?_⟩
          obtain ⟨fuel, rfl⟩ := Nat.exists_eq_succ_of_ne_zero (Nat.ne_zero_of_lt hfuel)
          rw [items_of_reads hspaced ha hat]
          exact bind_of_ok (hitems _ _ rest _ (Nat.lt_of_succ_lt_succ hfuel) (hnext rest))
        · rintro ⟨hnone, hfails⟩
          refine ⟨fun as hall => ?_, fun fuel index rest bs hat => ?_⟩
          · cases hall with
            | cons _ htail => exact hnone _ htail
          cases fuel with
          | zero => exact ⟨_, rfl⟩
          | succ fuel =>
              obtain ⟨e, he⟩ := hfails fuel (index + 1) rest _ (hnext rest)
              exact ⟨e, by rw [items_of_reads hspaced ha hat, bind_of_error he]⟩
      · refine Or.inr ⟨fun as hall => ?_, fun _ _ _ _ => items_of_refuses hspaced hrefuses⟩
        cases hall with
        | cons ha _ => exact hrefuses.not_reads ha

theorem length_le_separated (pieces : List (List UInt8)) (h : ∀ q ∈ pieces, q ≠ []) :
    pieces.length ≤ (separated pieces).length := by
  cases pieces with
  | nil => exact Nat.zero_le _
  | cons piece pieces =>
      have hpos := List.length_pos_of_ne_nil (h piece List.mem_cons_self)
      have htail : pieces.length ≤ (pieces.flatMap (0x2C :: ·)).length := by
        clear h
        induction pieces with
        | nil => exact Nat.le_refl 0
        | cons q pieces ih =>
            simp only [List.flatMap_cons, List.length_append, List.length_cons]
            omega
      simp only [separated, List.length_append, List.length_cons]
      omega

private theorem list_bytes (read : Reader α) (l : ListText) (blank : Blank ws) (rest : List UInt8) :
    ∃ fuel, l.parts.length < fuel ∧ list read (ws ++ (l.bytes ++ rest)) =
      (items read fuel 0 >>= fun all => endList >>= fun _ => pure all)
        (l.lead ++ (separated (l.parts.map Part.bytes) ++ 0x5D :: rest)) := by
  have hspace : isSpace 0x5B = false := by decide
  have hle := length_le_separated (l.parts.map Part.bytes) ?_
  · refine ⟨(l.lead ++ (separated (l.parts.map Part.bytes) ++ 0x5D :: rest)).length + 1, ?_, ?_⟩
    · rw [List.length_map] at hle
      simp only [List.length_append]
      omega
    · rw [list, peek_bind_append blank, ListText.bytes, listBytes_append, peek_bind_cons hspace]
      rfl
  · intro q hq
    obtain ⟨p, hp, rfl⟩ := List.mem_map.mp hq
    obtain ⟨c, tail, hvalue, _⟩ := (l.values p hp).exists_cons
    simp [Part.bytes, hvalue]

theorem endList_cons (rest : List UInt8) : endList (0x5D :: rest) = .ok ((), rest) := by
  have hspace : isSpace 0x5D = false := by decide
  rw [endList, peek_bind_cons hspace]
  rfl

private theorem listText_cases (l : ListText) (h : Decides read) :
    (∃ as, List.Forall₂ (fun p a => Reads read p.value a) l.parts as ∧
      Reads (list read) l.bytes as) ∨
    (∀ as, ¬List.Forall₂ (fun p a => Reads read p.value a) l.parts as) ∧
      Refuses (list read) l.bytes := by
  have hat := atParts_first l.blank l.spaced l.values
  refine (items_cases h l.spaced l.values).imp ?_ (And.imp_right ?_)
  · rintro ⟨as, hall, hitems⟩
    refine ⟨as, hall, fun ws rest blank _ => ?_⟩
    obtain ⟨fuel, hfuel, hlist⟩ := list_bytes read l blank rest
    rw [hlist, bind_of_ok (hitems fuel 0 rest _ hfuel (hat rest)), bind_of_ok (endList_cons rest)]
    rfl
  · intro hfails ws rest blank _
    obtain ⟨fuel, _, hlist⟩ := list_bytes read l blank rest
    obtain ⟨e, he⟩ := hfails fuel 0 rest _ (hat rest)
    exact ⟨e, by rw [hlist, bind_of_error he]⟩

/-- A list is read as the values of its parts, in order. -/
theorem reads_list_iff (h : Decides read) {l : ListText} :
    Reads (Reader.list read) l.bytes as ↔
      List.Forall₂ (fun p a => Reads read p.value a) l.parts as := by
  have hcases := listText_cases l h
  refine ⟨fun has => has.of_cases (hcases.imp_right And.right), fun hall => ?_⟩
  rcases hcases with ⟨bs, hbs, hreads⟩ | ⟨hnone, _⟩
  · have hunique : Relator.RightUnique fun (p : Part) a => Reads read p.value a :=
      fun _ _ _ => Reads.eq
    rwa [hunique.forall₂ hall hbs]
  · exact absurd hall (hnone as)

theorem Decides.list (h : Decides read) : Decides (Reader.list read) := by
  intro v value
  obtain ⟨b, heads⟩ := value.exists_heads
  by_cases hb : b = 0x5B
  · obtain ⟨l, rfl⟩ := heads.list hb
    exact (listText_cases l h).imp (fun ⟨as, _, has⟩ => ⟨as, has⟩) And.right
  · refine Or.inr (refuses_of_mismatch "a sequence" heads ?_)
    split
    · contradiction
    · rename_i h
      exact absurd (Option.some.inj h) hb
    · rfl

theorem Decides.run_list_eq_ok_iff (h : Decides read) {l : ListText} :
    (Reader.list read).run l.bytes = .ok as ↔
      List.Forall₂ (fun p a => read.run p.value = .ok a) l.parts as := by
  have hvalues : ∀ R : Part → α → Prop, List.Forall₂ R l.parts as ↔
      List.Forall₂ (fun p a => IsValue p.value ∧ R p a) l.parts as := by
    intro R
    rw [List.forall₂_and_left]
    exact (and_iff_right l.values).symm
  have hlist : Reads (Reader.list read) l.bytes as ↔ _ := reads_list_iff h
  rw [h.list.run_eq_ok_iff_reads l.isValue, hlist, hvalues, hvalues fun p a => read.run p.value = _]
  have hone : ∀ p a, IsValue (Part.value p) ∧ Reads read p.value a ↔
      IsValue p.value ∧ read.run p.value = .ok a := fun p a =>
    and_congr_right fun value => (h.run_eq_ok_iff_reads value).symm
  simp only [hone]

end Lists

end Reader

end Matchmaking.Json
