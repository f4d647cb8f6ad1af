import SchemaText.Proofs.Pattern.Silent
/-! Stretches of text out of which no match runs, and patterns that hold off from a mark. -/

namespace SchemaText.Pattern

section HoldsOff

variable {mark : Char} {openers : List Char} {p q : Pattern} {s t u : Spot}

def Spot.Guards (mark : Char) (openers : List Char) (s t : Spot) : Prop :=
  ∀ ⦃front back : List Char⦄, s.Spans (front ++ mark :: back) t → ∃ c ∈ front, c ∈ openers

def HoldsOff (mark : Char) (openers : List Char) (p : Pattern) : Prop :=
  ∀ ⦃s t : Spot⦄, p.Meets s t → s.Guards mark openers t

theorem Spot.Spans.eq {xs ys : List Char} (h : s.Spans xs t) (k : s.Spans ys t) : xs = ys :=
  List.append_cancel_right (h.rest.symm.trans k.rest)

theorem Spot.guards_of_notMem {xs : List Char} (h : s.Spans xs t) (k : mark ∉ xs) :
    s.Guards mark openers t := by
  intro front back hsp
  exact absurd (h.eq hsp ▸ List.mem_append_right _ List.mem_cons_self) k

theorem Spot.Guards.trans {xs ys : List Char} (hx : s.Spans xs u) (hy : u.Spans ys t)
    (h : s.Guards mark openers u) (k : u.Guards mark openers t) : s.Guards mark openers t := by
  intro front back hsp
  rcases List.append_eq_append_iff.1 (hsp.eq (hx.trans hy)) with ⟨ws, rfl, hr⟩ | ⟨ws, rfl, hr⟩
  · cases ws with
    | nil =>
      have hmark : u.Spans ([] ++ mark :: back) t := hr ▸ hy
      obtain ⟨_, hc, _⟩ := k hmark
      cases hc
    | cons w ws =>
      obtain ⟨rfl, _⟩ := List.cons.inj hr
      exact h hx
  · obtain ⟨c, hc, hin⟩ := k (hr ▸ hy)
    exact ⟨c, List.mem_append_right _ hc, hin⟩

theorem Spot.Guards.exists_eq_append {xs rest taken : List Char} (h : s.Guards mark openers t)
    (hsp : s.Spans taken t) (hs : s.rest = xs ++ mark :: rest) (ho : ∀ c ∈ xs, c ∉ openers) :
    ∃ zs, xs = taken ++ zs ∧ t.rest = zs ++ mark :: rest := by
  rcases List.append_eq_append_iff.1 (hs.symm.trans hsp.rest) with ⟨ws, rfl, hr⟩ | ⟨ws, rfl, hr⟩
  · cases ws with
    | nil => exact ⟨[], by rw [List.append_nil, List.append_nil], hr.symm⟩
    | cons w ws =>
      obtain ⟨rfl, _⟩ := List.cons.inj hr
      obtain ⟨c, hc, hin⟩ := h hsp
      exact absurd hin (ho c hc)
  · exact ⟨ws, rfl, hr⟩

theorem holdsOff_one {accepts : Char → Bool} (h : accepts mark = false) :
    HoldsOff mark openers (one accepts) := by
  rintro s t ⟨c, rest, hr, hc, rfl⟩
  refine Spot.guards_of_notMem (Spot.spans_after hr) fun hm => ?_
  rw [List.mem_singleton.1 hm, hc] at h
  cases h

theorem holdsOff_most {accepts : Char → Bool} (h : accepts mark = false) :
    HoldsOff mark openers (most accepts) := by
  intro s t hm
  obtain ⟨taken, hsp, ha, _⟩ := Spot.mem_run_iff.1 hm
  refine Spot.guards_of_notMem hsp fun hin => ?_
  rw [ha mark hin] at h
  cases h

theorem holdsOff_wordEdge : HoldsOff mark openers wordEdge := by
  rintro s t ⟨_, rfl⟩
  exact Spot.guards_of_notMem (Spot.Spans.refl _) (by simp)

theorem HoldsOff.append (h : HoldsOff mark openers p) (k : HoldsOff mark openers q) :
    HoldsOff mark openers (p ++ q) := by
  rintro s t ⟨u, hu, ht⟩
  obtain ⟨xs, hx⟩ := hu.exists_spans
  obtain ⟨ys, hy⟩ := ht.exists_spans
  exact Spot.Guards.trans hx hy (h hu) (k ht)

theorem HoldsOff.orElse (h : HoldsOff mark openers p) (k : HoldsOff mark openers q) :
    HoldsOff mark openers (p <|> q) :=
  fun _ _ hm => hm.elim (fun hp => h hp) fun hq => k hq

theorem HoldsOff.optional (h : HoldsOff mark openers p) :
    HoldsOff mark openers (Pattern.optional p) := by
  rintro s t (hp | rfl)
  · exact h hp
  · exact Spot.guards_of_notMem (Spot.Spans.refl _) (by simp)

theorem HoldsOff.group (h : HoldsOff mark openers p) (name : String) :
    HoldsOff mark openers (Pattern.group name p) := by
  rintro s t ⟨u, hu, rfl⟩ front back hsp
  exact h hu ⟨hsp.rest, hsp.offset, hsp.before⟩

theorem HoldsOff.repeated (h : HoldsOff mark openers p) :
    HoldsOff mark openers (Pattern.repeated p) := by
  intro s t hm
  have hr : Rounds p.Meets s t := hm
  clear hm
  induction hr with
  | stop s => exact Spot.guards_of_notMem (Spot.Spans.refl s) (by simp)
  | next hp _ hr ih =>
    obtain ⟨xs, hx⟩ := hp.exists_spans
    obtain ⟨ys, hy⟩ := Rounds.exists_spans hr fun _ _ => Meets.exists_spans
    exact Spot.Guards.trans hx hy (h hp) ih

theorem holdsOff_word {letters : String} (h : letters.toList.all fun c => !Text.sameLetter c mark) :
    HoldsOff mark openers (word letters) := by
  unfold word
  generalize letters.toList = cs at h
  induction cs with
  | nil =>
    rintro s t rfl
    exact Spot.guards_of_notMem (Spot.Spans.refl _) (by simp)
  | cons c cs ih =>
    obtain ⟨hc, hcs⟩ := Bool.and_eq_true_iff.1 h
    exact (holdsOff_one (by simpa using hc)).append (ih hcs)

theorem holdsOff_oneOrMore {accepts : Char → Bool} (h : accepts mark = false) :
    HoldsOff mark openers (oneOrMore accepts) :=
  (holdsOff_one h).append (holdsOff_most h)

theorem holdsOff_opener {opening : Char} (h : opening ∈ openers) (k : opening ≠ mark) :
    HoldsOff mark openers (char opening ++ q) := by
  rintro s t ⟨u, ⟨c, rest, hr, hc, rfl⟩, ht⟩ front back hsp
  obtain rfl : c = opening := beq_iff_eq.1 hc
  have hfront := hr.symm.trans hsp.rest
  cases front with
  | nil => exact absurd (List.cons.inj hfront).1 k
  | cons d front =>
    obtain ⟨rfl, _⟩ := List.cons.inj hfront
    exact ⟨c, List.mem_cons_self, h⟩

end HoldsOff

section Contained

variable {p : Pattern} {s : Spot} {xs rest : List Char}

def Contained (p : Pattern) (xs rest : List Char) : Prop :=
  ∀ s : Spot, s.rest = xs ++ rest → ∀ ys zs, xs = ys ++ zs → zs ≠ [] →
    ∀ m, p.matchAt (s.past ys (zs ++ rest)) = some m → m.stop ≤ s.offset + xs.length

theorem findFrom_of_contained (h : p.Contained xs rest) (hs : s.rest = xs ++ rest) {free : Nat}
    (hf : free ≤ s.offset + xs.length) :
    ∃ found free', p.findFrom free s.onward = found ++ p.findFrom free' (s.past xs rest).onward ∧
      free' ≤ s.offset + xs.length := by
  have hm := h s hs
  -- The stretch as a whole is contained; the induction keeps what that says of its places.
  clear h
  induction xs generalizing s free with
  | nil => exact ⟨[], free, by rw [Spot.past_nil (by simpa using hs), List.nil_append], hf⟩
  | cons c xs ih =>
    have hlen : (s.past [c] (xs ++ rest)).offset + xs.length = s.offset + (c :: xs).length := by
      simp only [Spot.past, List.length_cons, List.length_nil]
      omega
    have hnext (free : Nat) (hf : free ≤ s.offset + (c :: xs).length) :
        ∃ found free', p.findFrom free (s.past [c] (xs ++ rest)).onward =
          found ++ p.findFrom free' (s.past (c :: xs) rest).onward ∧
            free' ≤ s.offset + (c :: xs).length := by
      have hk := ih (s := s.past [c] (xs ++ rest)) rfl (hlen.symm ▸ hf) fun ys zs he hz m hp => by
        rw [Spot.past_past] at hp
        rw [hlen]
        exact hm (c :: ys) zs (by rw [he, List.cons_append]) hz m hp
      rwa [Spot.past_past, hlen] at hk
    rw [List.cons_append] at hs
    rw [Spot.onward_cons hs, findFrom]
    split
    · exact hnext free hf
    · cases ha : p.matchAt s with
      | none => exact hnext free hf
      | some m =>
        have hstop := hm [] (c :: xs) rfl (by simp) m (by rwa [List.cons_append, Spot.past_nil hs])
        obtain ⟨found, free', he, hle⟩ := hnext (max m.stop (s.offset + 1))
          (Nat.max_le.2 ⟨hstop, by rw [List.length_cons]; omega⟩)
        exact ⟨m :: found, free', by simp only [he, List.cons_append], hle⟩

theorem exists_of_findSome?_run {β : Type} {f : Spot → Option β} {b : β} {run : List Char}
    (hs : s.rest = run ++ rest) (k : f (s.past run rest) ≠ none)
    (h : (s.run fun _ => true).findSome? f = some b) :
    ∃ front back, run = front ++ back ∧ f (s.past front (back ++ rest)) = some b := by
  induction run generalizing s with
  | nil =>
    rw [Spot.past_nil (by simpa using hs)] at k
    refine ⟨[], [], rfl, ?_⟩
    rw [Spot.past_nil (by simpa using hs)]
    obtain ⟨offset, before, text, captures⟩ := s
    cases hf : f ⟨offset, before, text, captures⟩ with
    | none => exact absurd hf k
    | some a => cases text <;> simpa [Spot.run, Spot.runFrom, hf] using h
  | cons c run ih =>
    have hr : (s.run fun _ => true) = s :: ((s.past [c] (run ++ rest)).run fun _ => true) :=
      Spot.onward_cons hs
    rw [hr, List.findSome?_cons] at h
    split at h
    · next a hf =>
      refine ⟨[], c :: run, rfl, ?_⟩
      rwa [Spot.past_nil hs, ← h]
    · obtain ⟨front, back, rfl, hb⟩ := ih (s := s.past [c] (run ++ rest)) rfl
        (by rwa [Spot.past_past]) h
      refine ⟨c :: front, back, rfl, ?_⟩
      rwa [Spot.past_past] at hb

end Contained

end SchemaText.Pattern
