import Mathlib.Data.List.Induction
import Matchmaking.Json.Labels
import Matchmaking.Proofs.Json.Object

/-!
# Reading labels

Labels are read from an object of texts; of several members of a name the last counts.
-/

namespace Matchmaking.Labels

open Json Json.Reader

variable {labels : Labels} {m : Member} {ms pre : List Member} {ws rest lead v : List UInt8}

theorem ofList_append_singleton (entries : List (String × String)) (name value : String) :
    ofList (entries ++ [(name, value)]) = (ofList entries).set name value := by
  rw [ofList, List.foldl_append]
  rfl

/-- The text of a label is the last one that an entry gives to its name. -/
theorem get?_ofList (entries : List (String × String)) (name : String) :
    (ofList entries).get? name = entries.reverse.lookup name := by
  induction entries using List.reverseRecOn with
  | nil => rfl
  | append_singleton entries e ih =>
      obtain ⟨key, value⟩ := e
      rw [ofList_append_singleton, get?_set, ih, List.reverse_concat, List.lookup_cons]
      have hb : (name == key) = decide (name = key) := rfl
      by_cases h : name = key <;> simp [hb, h]

/-- What the members of an object tell of labels: each is a text, and the last of a name counts. -/
def Told (ms : List Member) (labels : Labels) : Prop :=
  ∃ entries : List (String × String),
    List.Forall₂ (fun m e => m.name = e.1 ∧ Reader.text.run m.value = .ok e.2) ms entries ∧
      labels = ofList entries

private def add (name : String) (labels : Labels) : Reader Labels := do
  colon
  return labels.set name (← within (.member name) Reader.text)

private theorem Told.append (h : Told pre labels) {t : String}
    (ht : Reader.text.run m.value = .ok t) : Told (pre ++ [m]) (labels.set m.name t) := by
  obtain ⟨entries, hall, rfl⟩ := h
  refine ⟨entries ++ [(m.name, t)], ?_, (ofList_append_singleton _ _ _).symm⟩
  exact List.rel_append hall (.cons ⟨rfl, ht⟩ .nil)

private theorem Told.exists_text {post : List Member} (h : Told (pre ++ m :: post) labels) :
    ∃ t, Reader.text.run m.value = .ok t := by
  obtain ⟨entries, hall, -⟩ := h
  induction pre generalizing entries with
  | nil =>
      cases hall with
      | cons he _ => exact ⟨_, he.2⟩
  | cons n pre ih =>
      cases hall with
      | cons _ htail => exact ih _ htail

private theorem Told.eq {labels' : Labels} (h : Told ms labels) (h' : Told ms labels') :
    labels = labels' := by
  obtain ⟨entries, hall, rfl⟩ := h
  obtain ⟨entries', hall', rfl⟩ := h'
  have hunique : Relator.RightUnique fun (m : Member) (e : String × String) =>
      m.name = e.1 ∧ Reader.text.run m.value = .ok e.2 :=
    fun _ _ _ he he' => Prod.ext (he.1.symm.trans he'.1) (Except.ok.inj (he.2.symm.trans he'.2))
  rw [hunique.forall₂ hall hall']

private theorem add_keeps (spaced : m.Spaced) (value : IsValue m.value) : Keeps add Told m := by
  intro pre labels told
  rcases text_decides m.value value with ⟨t, ht⟩ | hrefuses
  · refine Or.inl ⟨labels.set m.name t, told.append ht.run, fun rest follows => ?_⟩
    rw [add, bind_of_ok (colon_append spaced.gap),
      bind_of_ok (within_of_ok _ (ht _ _ spaced.before follows))]
    rfl
  · refine Or.inr ⟨fun post labels' h => ?_, fun rest follows => ?_⟩
    · obtain ⟨t, ht⟩ := h.exists_text
      exact hrefuses.not_reads ((text_decides.run_eq_ok_iff_reads value).mp ht)
    · obtain ⟨e, he⟩ := hrefuses _ _ spaced.before follows
      rw [add, bind_of_ok (colon_append spaced.gap)]
      exact ⟨_, bind_of_error (within_of_error _ he)⟩

private theorem reader_object (blank : Blank ws) (rest : List UInt8) :
    reader (ws ++ (objectBytes lead ms ++ rest)) =
      (object add empty >>= fun labels => advance >>= fun _ => pure labels)
        (lead ++ (separated (ms.map Member.bytes) ++ 0x7D :: rest)) := by
  have hspace : isSpace 0x7B = false := by decide
  rw [reader, peek_bind_append blank, objectBytes_append, peek_bind_cons hspace]
  rfl

private theorem object_reads_or_refuses (blank : Blank lead) (spaced : ∀ m ∈ ms, m.Spaced)
    (names : ∀ m ∈ ms, m.Named ∨ Unreadable m) (values : ∀ m ∈ ms, IsValue m.value) :
    (∃ labels, Told ms labels ∧ reader.Reads (objectBytes lead ms) labels) ∨
    ((∀ m ∈ ms, m.Named) → ∀ labels, ¬Told ms labels) ∧
      reader.Refuses (objectBytes lead ms) := by
  have start : Told [] empty := ⟨[], .nil, rfl⟩
  refine (object_cases blank spaced names
    (fun m hm => add_keeps (spaced m hm) (values m hm)) start).imp ?_ (And.imp_right ?_)
  · rintro ⟨labels, told, hobject⟩
    refine ⟨labels, told, fun ws rest blank _ => ?_⟩
    rw [reader_object blank, bind_of_ok (hobject rest)]
    rfl
  · intro hfails ws rest blank _
    obtain ⟨e, he⟩ := hfails rest
    exact ⟨e, by rw [reader_object blank, bind_of_error he]⟩

theorem reader_decides : reader.Decides := by
  intro v value
  obtain ⟨b, heads⟩ := value.exists_heads
  by_cases hobject : b = 0x7B
  · obtain ⟨lead, ms, blank, spaced, labels, values, rfl⟩ := heads.object hobject
    obtain ⟨ns, hsame, spaced, names, values⟩ := exists_names lead spaced labels values
    rw [← hsame]
    exact (object_reads_or_refuses blank spaced names values).imp
      (fun ⟨labels, _, h⟩ => ⟨labels, h⟩) And.right
  · refine Or.inr (refuses_of_mismatch "a map" heads ?_)
    split
    · contradiction
    · rename_i h
      exact absurd (Option.some.inj h) hobject
    · rfl

theorem reads_iff {o : ObjectText} : reader.Reads o.bytes labels ↔ Told o.members labels := by
  have hcases : (∃ labels, Told o.members labels ∧ reader.Reads o.bytes labels) ∨ _ :=
    object_reads_or_refuses o.blank o.spaced (fun m hm => Or.inl (o.named m hm)) o.values
  refine ⟨fun h => h.of_cases (hcases.imp_right And.right), fun h => ?_⟩
  rcases hcases with ⟨labels', told, hreads⟩ | ⟨hnone, _⟩
  · rwa [h.eq told]
  · exact absurd h (hnone o.named labels)

end Matchmaking.Labels
