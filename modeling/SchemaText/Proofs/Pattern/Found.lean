import SchemaText.Proofs.Pattern.Meets
/-! Matches that were found, and the places between which they meet their pattern. -/

namespace SchemaText.Pattern

def matchOf (s t : Spot) : Match :=
  ⟨s.offset, t.offset, t.captures⟩

theorem text_matchOf (s t : Spot) (name : String) :
    (matchOf s t).text name = (t.text? name).getD [] := rfl

theorem meets_of_matchAt {p : Pattern} {s : Spot} {m : Match} (h : p.matchAt s = some m) :
    ∃ t, p.Meets s t ∧ m = matchOf s t := by
  obtain ⟨t, ht, hm⟩ := exists_meets_of_tryAt p h
  cases hm
  exact ⟨t, ht, rfl⟩

theorem meets_of_matchStart {p : Pattern} {text : List Char} {m : Match}
    (h : p.matchStart text = some m) :
    ∃ t, p.Meets ⟨0, none, text, []⟩ t ∧ m = matchOf ⟨0, none, text, []⟩ t :=
  meets_of_matchAt h

theorem meets_of_search {p : Pattern} {text : List Char} {m : Match}
    (h : p.search text = some m) :
    ∃ s ∈ Spot.all text, ∃ t, p.Meets s t ∧ m = matchOf s t := by
  obtain ⟨s, hs, hm⟩ := List.exists_of_findSome?_eq_some h
  exact ⟨s, hs, meets_of_matchAt hm⟩

theorem oneOrMore_meets {accepts : Char → Bool} {s t : Spot} (h : (oneOrMore accepts).Meets s t) :
    ∃ taken, s.Spans taken t ∧ taken ≠ [] ∧ ∀ c ∈ taken, accepts c := by
  obtain ⟨u, ⟨c, rest, hr, hc, rfl⟩, ht⟩ := h
  obtain ⟨taken, hs, ha, _⟩ := Spot.mem_run_iff.1 ht
  exact ⟨c :: taken, (Spot.spans_after hr).trans hs, by simp, List.forall_mem_cons.2 ⟨hc, ha⟩⟩

theorem start_of_matchAt {p : Pattern} {s : Spot} {m : Match} (h : p.matchAt s = some m) :
    m.start = s.offset := by
  obtain ⟨t, _, rfl⟩ := meets_of_matchAt h
  rfl

theorem mem_findFrom {p : Pattern} {free : Nat} {spots : List Spot} {m : Match}
    (h : m ∈ p.findFrom free spots) : ∃ s ∈ spots, p.matchAt s = some m := by
  induction spots generalizing free with
  | nil => cases h
  | cons s spots ih =>
    have hlater {free : Nat} (hm : m ∈ p.findFrom free spots) :
        ∃ t ∈ s :: spots, p.matchAt t = some m := by
      obtain ⟨t, ht, hk⟩ := ih hm
      exact ⟨t, List.mem_cons_of_mem s ht, hk⟩
    unfold findFrom at h
    split at h
    · exact hlater h
    · split at h
      · exact hlater h
      · next found hf =>
        rcases List.mem_cons.1 h with rfl | h
        · exact ⟨s, List.mem_cons_self, hf⟩
        · exact hlater h

theorem le_start_of_mem_findFrom {p : Pattern} {free : Nat} {spots : List Spot} {m : Match}
    (h : m ∈ p.findFrom free spots) : free ≤ m.start := by
  induction spots generalizing free with
  | nil => cases h
  | cons s spots ih =>
    unfold findFrom at h
    split at h
    · exact ih h
    · next hf =>
      split at h
      · exact ih h
      · next found hm =>
        rcases List.mem_cons.1 h with rfl | h
        · rw [start_of_matchAt hm]
          exact Nat.not_lt.1 hf
        · have := ih h
          omega

theorem pairwise_findFrom (p : Pattern) (free : Nat) (spots : List Spot) :
    (p.findFrom free spots).Pairwise fun m n => m.start < n.start := by
  induction spots generalizing free with
  | nil => exact .nil
  | cons s spots ih =>
    unfold findFrom
    split
    · exact ih free
    · split
      · exact ih free
      · next m hm =>
        refine List.pairwise_cons.2 ⟨fun n hn => ?_, ih _⟩
        have := le_start_of_mem_findFrom hn
        rw [start_of_matchAt hm]
        omega

theorem pairwise_findAll (p : Pattern) (text : List Char) :
    (p.findAll text).Pairwise fun m n => m.start < n.start :=
  p.pairwise_findFrom 0 _

section Within

variable {text : List Char} {s t : Spot}

structure Spot.Within (text : List Char) (s : Spot) : Prop where
  rest : s.rest = text.drop s.offset
  captures : ∀ c ∈ s.captures, c.rest = text.drop c.offset

theorem Spot.Within.spans {taken : List Char} (h : s.Within text) (k : s.Spans taken t)
    (hc : t.captures = s.captures) : t.Within text where
  rest := by
    have hd : text.drop s.offset = taken ++ t.rest := h.rest.symm.trans k.rest
    rw [k.offset, ← List.drop_drop, hd, List.drop_left]
  captures := hc ▸ h.captures

theorem Spot.Within.capture (h : s.Within text) (k : t.Within text) (name : String) :
    (t.capture name s).Within text where
  rest := k.rest
  captures := List.forall_mem_cons.2 ⟨h.rest, k.captures⟩

theorem Meets.within {p : Pattern} (h : p.Meets s t) (k : s.Within text) : t.Within text := by
  induction p generalizing s t with
  | empty =>
    obtain rfl := h
    exact k
  | one accepts =>
    obtain ⟨c, rest, hr, _, rfl⟩ := h
    exact k.spans (Spot.spans_after hr) rfl
  | most accepts | fewest accepts =>
    obtain ⟨taken, hs, _, hc⟩ := Spot.mem_run_iff.1 h
    exact k.spans hs hc
  | sequence first second ihf ihs =>
    obtain ⟨u, hu, ht⟩ := h
    exact ihs ht (ihf hu k)
  | choice first second ihf ihs => exact h.elim (ihf · k) (ihs · k)
  | optional body ih =>
    rcases h with h | rfl
    · exact ih h k
    · exact k
  | repeated body ih =>
    have hr : Rounds body.Meets s t := h
    clear h
    induction hr with
    | stop s => exact k
    | next hs _ _ iht => exact iht (ih hs k)
  | group name body ih =>
    obtain ⟨u, hu, rfl⟩ := h
    exact k.capture (ih hu k) name
  | wordEdge | textStart | textEnd =>
    obtain ⟨_, rfl⟩ := h
    exact k

theorem Spot.within_of_mem_all (h : s ∈ Spot.all text) : s.Within text := by
  obtain ⟨front, hs, _, hc⟩ := Spot.spans_of_mem_runFrom h
  exact Spot.Within.spans (s := ⟨0, none, text, []⟩) ⟨rfl, by simp⟩ hs hc

theorem exists_spot_of_mem_findAll {p : Pattern} {m : Match} (h : m ∈ p.findAll text) :
    ∃ s : Spot, s.Within text ∧ s.offset = m.start ∧ p.matchAt s = some m := by
  obtain ⟨s, hs, hm⟩ := mem_findFrom h
  exact ⟨s, Spot.within_of_mem_all hs, (start_of_matchAt hm).symm, hm⟩

theorem rest_of_mem_captures {p : Pattern} {m : Match} (h : m ∈ p.findAll text) {c : Capture}
    (k : c ∈ m.captures) : c.rest = text.drop c.offset := by
  obtain ⟨s, hs, _, hm⟩ := exists_spot_of_mem_findAll h
  obtain ⟨t, ht, rfl⟩ := meets_of_matchAt hm
  exact (ht.within hs).captures c k

end Within

end SchemaText.Pattern
