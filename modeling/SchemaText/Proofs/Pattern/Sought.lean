import SchemaText.Proofs.Pattern.Contained
/-! Searches that fail for want of a letter, and searches that cannot fail. -/

namespace SchemaText.Pattern

open Text (sameLetter)

variable {accepts : Char → Bool} {p q : Pattern} {text : List Char}

def Needs (accepts : Char → Bool) (p : Pattern) : Prop :=
  ∀ ⦃s t : Spot⦄ ⦃taken : List Char⦄, p.Meets s t → s.Spans taken t → taken.any accepts

theorem needs_one : Needs accepts (one accepts) := by
  rintro s t taken ⟨c, rest, hr, hc, rfl⟩ hsp
  rw [hsp.eq (Spot.spans_after hr), List.any_cons, hc]
  rfl

theorem Needs.append_left (h : Needs accepts p) (q : Pattern) : Needs accepts (p ++ q) := by
  rintro s t taken ⟨u, hu, ht⟩ hsp
  obtain ⟨xs, hx⟩ := hu.exists_spans
  obtain ⟨ys, hy⟩ := ht.exists_spans
  rw [hsp.eq (hx.trans hy), List.any_append, h hu hx, Bool.true_or]

theorem Needs.append_right (h : Needs accepts q) (p : Pattern) : Needs accepts (p ++ q) := by
  rintro s t taken ⟨u, hu, ht⟩ hsp
  obtain ⟨xs, hx⟩ := hu.exists_spans
  obtain ⟨ys, hy⟩ := ht.exists_spans
  rw [hsp.eq (hx.trans hy), List.any_append, h ht hy, Bool.or_true]

theorem Needs.orElse (h : Needs accepts p) (k : Needs accepts q) : Needs accepts (p <|> q) :=
  fun _ _ _ hm hsp => hm.elim (fun hm => h hm hsp) fun hm => k hm hsp

theorem Needs.mono {more : Char → Bool} (h : Needs accepts p) (k : ∀ c, accepts c → more c) :
    Needs more p := by
  intro s t taken hm hsp
  obtain ⟨c, hc, ha⟩ := List.any_eq_true.1 (h hm hsp)
  exact List.any_eq_true.2 ⟨c, hc, k c ha⟩

theorem needs_word (letters : String) {letter : Char} (h : letter ∈ letters.toList) :
    Needs (sameLetter letter) (word letters) := by
  unfold word
  generalize letters.toList = cs at h
  induction cs with
  | nil => cases h
  | cons c cs ih =>
    rcases List.mem_cons.1 h with rfl | h
    · exact needs_one.append_left _
    · exact (ih h).append_right _

theorem search_eq_none_of_needs (h : Needs accepts p) (k : ∀ c ∈ text, accepts c = false) :
    p.search text = none := by
  cases hm : p.search text with
  | none => rfl
  | some m =>
    obtain ⟨s, hs, t, ht, _⟩ := meets_of_search hm
    obtain ⟨front, hf, _⟩ := Spot.spans_of_mem_runFrom hs
    obtain ⟨taken, hsp⟩ := ht.exists_spans
    obtain ⟨c, hc, ha⟩ := List.any_eq_true.1 (h ht hsp)
    have hin : c ∈ text := by
      have hr : text = front ++ (taken ++ t.rest) := hf.rest.trans (congrArg _ hsp.rest)
      rw [hr]
      exact List.mem_append_right _ (List.mem_append_left _ hc)
    rw [k c hin] at ha
    cases ha

theorem matchAt_eq_none_of_lt {s : Spot} {c : Char} {rest : List Char} (hs : s.rest = c :: rest)
    (h : ∀ m ∈ s.onward.findSome? p.matchAt, s.offset < m.start) : p.matchAt s = none := by
  cases hm : p.matchAt s with
  | none => rfl
  | some m =>
    have hstart := h m (by rw [Spot.onward_cons hs, List.findSome?_cons, hm]; rfl)
    rw [start_of_matchAt hm] at hstart
    exact absurd hstart (Nat.lt_irrefl _)

theorem matchAt_past_eq_none {s : Spot} {xs ys zs rest : List Char}
    (h : ∀ m ∈ s.onward.findSome? p.matchAt, s.offset + xs.length ≤ m.start)
    (hs : s.rest = xs ++ rest) (he : xs = ys ++ zs) (hz : zs ≠ []) :
    p.matchAt (s.past ys (zs ++ rest)) = none := by
  subst he
  induction ys generalizing s with
  | nil =>
    obtain ⟨c, zs, rfl⟩ := List.exists_cons_of_ne_nil hz
    rw [List.nil_append] at hs h
    rw [Spot.past_nil hs]
    refine matchAt_eq_none_of_lt hs fun m hm => Nat.lt_of_lt_of_le ?_ (h m hm)
    rw [List.length_cons]
    omega
  | cons c ys ih =>
    rw [List.cons_append] at hs
    have hfirst : p.matchAt s = none := by
      refine matchAt_eq_none_of_lt hs fun m hm => Nat.lt_of_lt_of_le ?_ (h m hm)
      rw [List.cons_append, List.length_cons]
      omega
    have hnext : p.matchAt ((s.past [c] (ys ++ zs ++ rest)).past ys (zs ++ rest)) = none := by
      refine ih (fun m hm => ?_) rfl
      have hstart := h m (by rw [Spot.onward_cons hs, List.findSome?_cons, hfirst]; exact hm)
      simp only [Spot.past, List.cons_append, List.length_cons, List.length_nil] at hstart ⊢
      omega
    rwa [Spot.past_past] at hnext

theorem Takes.isSome_search {xs rest : List Char} {texts : List (String × List Char)}
    (h : p.Takes xs rest texts) (front : List Char) :
    (p.search (front ++ (xs ++ rest))).isSome := by
  generalize hs : (⟨0, none, front ++ (xs ++ rest), []⟩ : Spot) = s
  have hr : s.rest = front ++ (xs ++ rest) := by rw [← hs]
  obtain ⟨t, ht, _⟩ := h.matchAt (s := s.past front (xs ++ rest)) rfl
  have hin : s.past front (xs ++ rest) ∈ Spot.all (front ++ (xs ++ rest)) := by
    have hall : ∀ c ∈ front, (fun _ : Char => true) c := fun _ _ => rfl
    have hm := Spot.mem_runFrom_of_spans (Spot.spans_past hr) hall rfl
    rwa [← hs] at hm ⊢
  unfold search
  rw [List.findSome?_isSome_iff]
  exact ⟨_, hin, by rw [ht]; rfl⟩

end SchemaText.Pattern
