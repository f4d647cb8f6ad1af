import SchemaText.Proofs.Pattern.Takes
/-! What a pattern can take of a text, whether or not it is the preferred way. -/

namespace SchemaText.Pattern

def Admits (p : Pattern) (taken rest : List Char) : Prop :=
  ∀ s : Spot, s.rest = taken ++ rest → ∃ t, p.Meets s t ∧ s.Spans taken t ∧ t.rest = rest

section Admits

variable {p q : Pattern} {accepts : Char → Bool} {xs ys taken run rest : List Char}

theorem admits_one {c : Char} (h : accepts c) (rest : List Char) : (one accepts).Admits [c] rest :=
  fun _ hs => ⟨_, ⟨c, rest, hs, h, rfl⟩, Spot.spans_after hs, rfl⟩

theorem admits_char (c : Char) (rest : List Char) : (char c).Admits [c] rest :=
  admits_one (by simp) rest

theorem admits_most (h : ∀ c ∈ run, accepts c) (rest : List Char) :
    (most accepts).Admits run rest :=
  fun _ hs => ⟨_, Spot.mem_run_iff.2 ⟨run, Spot.spans_past hs, h, rfl⟩, Spot.spans_past hs, rfl⟩

theorem admits_fewest (h : ∀ c ∈ run, accepts c) (rest : List Char) :
    (fewest accepts).Admits run rest :=
  fun _ hs => ⟨_, Spot.mem_run_iff.2 ⟨run, Spot.spans_past hs, h, rfl⟩, Spot.spans_past hs, rfl⟩

theorem Admits.append (h : p.Admits xs (ys ++ rest)) (k : q.Admits ys rest) :
    (p ++ q).Admits (xs ++ ys) rest := by
  intro s hs
  obtain ⟨t, ht, hst, hr⟩ := h s (by rw [hs, List.append_assoc])
  obtain ⟨u, hu, htu, hur⟩ := k t hr
  exact ⟨u, ⟨t, ht, hu⟩, hst.trans htu, hur⟩

theorem admits_oneOrMore (hne : run ≠ []) (h : ∀ c ∈ run, accepts c) (rest : List Char) :
    (oneOrMore accepts).Admits run rest := by
  obtain ⟨c, run, rfl⟩ := List.exists_cons_of_ne_nil hne
  have hrun : ∀ d ∈ run, accepts d := fun d hd => h d (List.mem_cons_of_mem _ hd)
  exact (admits_one (h c List.mem_cons_self) (run ++ rest)).append (admits_most hrun rest)

theorem Admits.group (h : p.Admits taken rest) (name : String) :
    (group name p).Admits taken rest := by
  intro s hs
  obtain ⟨t, ht, hst, hr⟩ := h s hs
  exact ⟨_, ⟨t, ht, rfl⟩, hst.capture name, hr⟩

theorem Admits.optional (h : p.Admits taken rest) : (optional p).Admits taken rest := by
  intro s hs
  obtain ⟨t, ht, hst, hr⟩ := h s hs
  exact ⟨t, .inl ht, hst, hr⟩

theorem admits_optional_nil (p : Pattern) (rest : List Char) :
    (Pattern.optional p).Admits [] rest :=
  fun s hs => ⟨s, .inr rfl, Spot.Spans.refl s, hs⟩

theorem admits_repeated_nil (p : Pattern) (rest : List Char) : (repeated p).Admits [] rest :=
  fun s hs => ⟨s, .stop s, Spot.Spans.refl s, hs⟩

theorem Admits.repeated_append (h : p.Admits xs (ys ++ rest)) (hne : xs ≠ [])
    (k : (repeated p).Admits ys rest) : (repeated p).Admits (xs ++ ys) rest := by
  intro s hs
  obtain ⟨t, ht, hst, hr⟩ := h s (by rw [hs, List.append_assoc])
  obtain ⟨u, hu, htu, hur⟩ := k t hr
  have hlt : s.offset < t.offset := by
    rw [hst.offset]
    exact Nat.lt_add_of_pos_right (List.length_pos_iff.2 hne)
  exact ⟨u, .next ht hlt hu, hst.trans htu, hur⟩

theorem Admits.isSome_matchWhole {text : List Char} (h : p.Admits text []) :
    (p.matchWhole text).isSome := by
  obtain ⟨t, ht, _, hr⟩ := h ⟨0, none, text, []⟩ (List.append_nil text).symm
  exact ht.isSome_tryAt (by rw [if_pos hr]; rfl)

theorem exists_meets_of_matchWhole {text : List Char} {m : Match} (h : p.matchWhole text = some m) :
    ∃ t, p.Meets ⟨0, none, text, []⟩ t ∧ t.rest = [] ∧ m = matchOf ⟨0, none, text, []⟩ t := by
  obtain ⟨t, ht, hm⟩ := exists_meets_of_tryAt p h
  split at hm
  · next hr => exact ⟨t, ht, hr, (Option.some.inj hm).symm⟩
  · cases hm

end Admits

end SchemaText.Pattern
