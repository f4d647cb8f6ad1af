import SchemaText.Proofs.Pattern.Takes
/-! Patterns that start with the start of a text, and what they find. -/

namespace SchemaText.Pattern

variable {p q : Pattern} {text : List Char}

def Anchored (p q : Pattern) : Prop :=
  p.Agrees (textStart ++ q)

theorem search_of_matchStart {m : Match} (h : p.matchStart text = some m) :
    p.search text = some m := by
  have ha : ∃ spots, Spot.all text = ⟨0, none, text, []⟩ :: spots := by
    cases text <;> exact ⟨_, rfl⟩
  obtain ⟨spots, hs⟩ := ha
  unfold search
  rw [hs, List.findSome?_cons, show p.matchAt ⟨0, none, text, []⟩ = some m from h]

theorem Anchored.exists_matchStart_append (hp : Anchored p q) {taken rest : List Char}
    {texts : List (String × List Char)} (h : q.Takes taken rest texts) :
    ∃ m, p.matchStart (taken ++ rest) = some m ∧
      m.captures.map (fun c => (c.name, c.text)) = texts := by
  obtain ⟨t, ht, _, _, hx⟩ := h ⟨0, none, taken ++ rest, []⟩ rfl
  refine ⟨matchOf ⟨0, none, taken ++ rest, []⟩ t, ?_, ?_⟩
  · unfold matchStart
    rw [Agrees.matchAt hp]
    exact ((leads_textStart rfl).append ht).matchAt
  · have htexts : (matchOf ⟨0, none, taken ++ rest, []⟩ t).captures.map
      (fun c => (c.name, c.text)) = t.texts := rfl
    rw [htexts, hx]
    simp [Spot.texts]

theorem Anchored.exists_matchStart (hp : Anchored p q) {texts : List (String × List Char)}
    (h : q.Takes text [] texts) :
    ∃ m, p.matchStart text = some m ∧ m.captures.map (fun c => (c.name, c.text)) = texts := by
  have hm := hp.exists_matchStart_append h
  rwa [List.append_nil] at hm

theorem Anchored.matchStart_eq_none (hp : Anchored p q) (h : q.FailsOn text) :
    p.matchStart text = none := by
  have hf : (textStart ++ q).Fails ⟨0, none, text, []⟩ := by
    refine fails_append fun t ht => ?_
    obtain ⟨_, rfl⟩ := ht
    exact h _ rfl
  unfold matchStart
  rw [Agrees.matchAt hp]
  exact hf.matchAt

theorem Anchored.search_eq_none (hp : Anchored p q) (h : q.FailsOn text) :
    p.search text = none := by
  refine List.findSome?_eq_none_iff.2 fun s hs => ?_
  obtain ⟨taken, hsp, _, _⟩ := Spot.spans_of_mem_runFrom hs
  have hf : (textStart ++ q).Fails s := by
    refine fails_append fun t ht => ?_
    obtain ⟨ho, rfl⟩ := ht
    have htaken : taken = [] := by
      have hoff := hsp.offset
      rw [ho] at hoff
      exact List.eq_nil_of_length_eq_zero (by simpa using hoff.symm)
    subst htaken
    exact h _ hsp.rest.symm
  rw [Agrees.matchAt hp]
  exact hf.matchAt

theorem Match.text?_eq_lookup (m : Match) (name : String) :
    m.text? name = (m.captures.map fun c => (c.name, c.text)).lookup name :=
  Spot.text?_eq_lookup ⟨m.stop, none, [], m.captures⟩ name

end SchemaText.Pattern
