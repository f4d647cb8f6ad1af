import SchemaText.Pattern.Search
/-! The ways to meet a pattern, whatever their order of preference. -/

namespace SchemaText.Pattern

namespace Spot

structure Spans (s : Spot) (taken : List Char) (t : Spot) : Prop where
  rest : s.rest = taken ++ t.rest
  offset : t.offset = s.offset + taken.length
  before : t.before = taken.getLast?.or s.before

theorem Spans.refl (s : Spot) : s.Spans [] s :=
  ⟨rfl, rfl, rfl⟩

theorem Spans.trans {s t u : Spot} {xs ys : List Char} (h : s.Spans xs t) (k : t.Spans ys u) :
    s.Spans (xs ++ ys) u := by
  refine ⟨?_, ?_, ?_⟩
  · rw [h.rest, k.rest, List.append_assoc]
  · rw [k.offset, h.offset, List.length_append, Nat.add_assoc]
  · rw [k.before, h.before, List.getLast?_append]
    cases ys.getLast? <;> rfl

theorem Spans.capture {s t u : Spot} {taken : List Char} (h : s.Spans taken t) (name : String) :
    s.Spans taken (t.capture name u) :=
  ⟨h.rest, h.offset, h.before⟩

theorem spans_after {s : Spot} {c : Char} {rest : List Char} (h : s.rest = c :: rest) :
    s.Spans [c] (s.after c rest) :=
  ⟨h, rfl, rfl⟩

theorem Spans.take {s t : Spot} {taken : List Char} (h : s.Spans taken t) :
    s.rest.take (t.offset - s.offset) = taken := by
  rw [h.rest, h.offset, Nat.add_sub_cancel_left, List.take_left]

theorem Spans.eq_of_nil {s t : Spot} (h : s.Spans [] t) (k : t.captures = s.captures) : t = s := by
  obtain ⟨offset, before, rest, captures⟩ := s
  obtain ⟨offset', before', rest', captures'⟩ := t
  obtain ⟨hr, ho, hb⟩ := h
  simp_all

theorem Spans.uncons {s t : Spot} {c : Char} {taken : List Char} (h : s.Spans (c :: taken) t) :
    ∃ rest, s.rest = c :: rest ∧ (s.after c rest).Spans taken t := by
  refine ⟨taken ++ t.rest, h.rest, rfl, ?_, ?_⟩
  · rw [h.offset, List.length_cons, after, Nat.add_assoc, Nat.add_comm 1]
  · rw [h.before]
    cases hl : taken.getLast? <;> simp [List.getLast?_cons, hl, after]

theorem spans_of_mem_runFrom {accepts : Char → Bool} {captures : List Capture} {offset : Nat}
    {before : Option Char} {rest : List Char} {t : Spot}
    (h : t ∈ runFrom accepts captures offset before rest) :
    ∃ taken, (⟨offset, before, rest, captures⟩ : Spot).Spans taken t ∧
      (∀ c ∈ taken, accepts c) ∧ t.captures = captures := by
  induction rest generalizing offset before with
  | nil =>
    rw [runFrom, List.mem_singleton] at h
    subst h
    exact ⟨[], Spans.refl _, by simp, rfl⟩
  | cons c rest ih =>
    rw [runFrom, List.mem_cons] at h
    rcases h with rfl | h
    · exact ⟨[], Spans.refl _, by simp, rfl⟩
    · split at h
      · next ha =>
        obtain ⟨taken, hs, hall, hc⟩ := ih h
        refine ⟨c :: taken, ?_, List.forall_mem_cons.2 ⟨ha, hall⟩, hc⟩
        exact (spans_after (s := ⟨offset, before, c :: rest, captures⟩) rfl).trans hs
      · simp at h

theorem mem_runFrom_of_spans {accepts : Char → Bool} {taken : List Char} {s t : Spot}
    (h : s.Spans taken t) (k : ∀ c ∈ taken, accepts c) (hc : t.captures = s.captures) :
    t ∈ runFrom accepts s.captures s.offset s.before s.rest := by
  induction taken generalizing s with
  | nil =>
    rw [h.eq_of_nil hc]
    cases hr : s.rest <;> simp [runFrom, ← hr]
  | cons c taken ih =>
    obtain ⟨rest, hr, hs⟩ := h.uncons
    have hm := ih hs (fun d hd => k d (by simp [hd])) hc
    rw [hr, runFrom, if_pos (k c (by simp))]
    exact List.mem_cons_of_mem _ hm

theorem mem_run_iff {accepts : Char → Bool} {s t : Spot} :
    t ∈ s.run accepts ↔
      ∃ taken, s.Spans taken t ∧ (∀ c ∈ taken, accepts c) ∧ t.captures = s.captures :=
  ⟨spans_of_mem_runFrom, fun ⟨_, hs, ha, hc⟩ => mem_runFrom_of_spans hs ha hc⟩

end Spot

inductive Rounds (step : Spot → Spot → Prop) : Spot → Spot → Prop where
  | stop (s : Spot) : Rounds step s s
  | next {s t u : Spot} (h : step s t) (k : s.offset < t.offset) (r : Rounds step t u) :
    Rounds step s u

def Meets : Pattern → Spot → Spot → Prop
  | empty, s, t => t = s
  | one accepts, s, t => ∃ c rest, s.rest = c :: rest ∧ accepts c ∧ t = s.after c rest
  | most accepts, s, t => t ∈ s.run accepts
  | fewest accepts, s, t => t ∈ s.run accepts
  | sequence first second, s, t => ∃ u, first.Meets s u ∧ second.Meets u t
  | choice first second, s, t => first.Meets s t ∨ second.Meets s t
  | optional body, s, t => body.Meets s t ∨ t = s
  | repeated body, s, t => Rounds body.Meets s t
  | group name body, s, t => ∃ u, body.Meets s u ∧ t = u.capture name s
  | wordEdge, s, t => s.atWordEdge ∧ t = s
  | textStart, s, t => s.offset = 0 ∧ t = s
  | textEnd, s, t => s.atTextEnd ∧ t = s

section Soundness

variable {β : Type}

theorem eq_some_of_orElse {x y : Option β} {b : β} (h : (x <|> y) = some b) :
    x = some b ∨ y = some b := by
  cases x with
  | none => exact .inr h
  | some a => exact .inl h

theorem exists_of_rounds {step : (Spot → Option β) → Spot → Option β} {meets : Spot → Spot → Prop}
    (h : ∀ goOn s b, step goOn s = some b → ∃ t, meets s t ∧ goOn t = some b)
    {goOn : Spot → Option β} {bound : Nat} {s : Spot} {b : β}
    (k : rounds step goOn bound s = some b) : ∃ t, Rounds meets s t ∧ goOn t = some b := by
  -- Each round moves ahead, and the bound only keeps the count.
  induction bound generalizing s with
  | zero => exact ⟨s, .stop s, k⟩
  | succ bound ih =>
    rcases eq_some_of_orElse k with k | k
    · obtain ⟨t, ht, hb⟩ := h _ _ _ k
      split at hb
      · next hlt =>
        obtain ⟨u, hu, hb⟩ := ih hb
        exact ⟨u, .next ht hlt hu, hb⟩
      · cases hb
    · exact ⟨s, .stop s, k⟩

theorem exists_meets_of_tryAt (p : Pattern) {goOn : Spot → Option β} {s : Spot} {b : β}
    (h : p.tryAt goOn s = some b) : ∃ t, p.Meets s t ∧ goOn t = some b := by
  -- What comes behind is general: a sequence hands its second part to the first.
  induction p generalizing goOn s b with
  | empty => exact ⟨s, rfl, h⟩
  | one accepts =>
    unfold tryAt at h
    split at h
    · cases h
    · next c rest hr =>
      split at h
      · next ha => exact ⟨_, ⟨c, rest, hr, ha, rfl⟩, h⟩
      · cases h
  | most accepts =>
    obtain ⟨t, ht, hb⟩ := List.exists_of_findSome?_eq_some h
    exact ⟨t, List.mem_reverse.1 ht, hb⟩
  | fewest accepts => exact List.exists_of_findSome?_eq_some h
  | sequence first second ihf ihs =>
    obtain ⟨u, hu, hb⟩ := ihf h
    obtain ⟨t, ht, hb⟩ := ihs hb
    exact ⟨t, ⟨u, hu, ht⟩, hb⟩
  | choice first second ihf ihs =>
    rcases eq_some_of_orElse h with h | h
    · obtain ⟨t, ht, hb⟩ := ihf h
      exact ⟨t, .inl ht, hb⟩
    · obtain ⟨t, ht, hb⟩ := ihs h
      exact ⟨t, .inr ht, hb⟩
  | optional body ih =>
    rcases eq_some_of_orElse h with h | h
    · obtain ⟨t, ht, hb⟩ := ih h
      exact ⟨t, .inl ht, hb⟩
    · exact ⟨s, .inr rfl, h⟩
  | repeated body ih =>
    have hr : rounds body.tryAt goOn s.rest.length s = some b := h
    refine exists_of_rounds ?_ hr
    intro goOn s b h
    exact ih h
  | group name body ih =>
    obtain ⟨u, hu, hb⟩ := ih h
    exact ⟨_, ⟨u, hu, rfl⟩, hb⟩
  | wordEdge =>
    unfold tryAt at h
    split at h
    · next he => exact ⟨s, ⟨he, rfl⟩, h⟩
    · cases h
  | textStart =>
    unfold tryAt at h
    split at h
    · next he => exact ⟨s, ⟨he, rfl⟩, h⟩
    · cases h
  | textEnd =>
    unfold tryAt at h
    split at h
    · next he => exact ⟨s, ⟨he, rfl⟩, h⟩
    · cases h

end Soundness

theorem Rounds.exists_spans {step : Spot → Spot → Prop} {s t : Spot} (h : Rounds step s t)
    (k : ∀ s t, step s t → ∃ taken, s.Spans taken t) : ∃ taken, s.Spans taken t := by
  induction h with
  | stop s => exact ⟨[], Spot.Spans.refl s⟩
  | next hs _ _ ih =>
    obtain ⟨xs, hx⟩ := k _ _ hs
    obtain ⟨ys, hy⟩ := ih
    exact ⟨xs ++ ys, hx.trans hy⟩

theorem Meets.exists_spans {p : Pattern} {s t : Spot} (h : p.Meets s t) :
    ∃ taken, s.Spans taken t := by
  induction p generalizing s t with
  | empty =>
    obtain rfl := h
    exact ⟨[], Spot.Spans.refl _⟩
  | one accepts =>
    obtain ⟨c, rest, hr, _, rfl⟩ := h
    exact ⟨[c], Spot.spans_after hr⟩
  | most accepts | fewest accepts =>
    obtain ⟨taken, hs, _⟩ := Spot.mem_run_iff.1 h
    exact ⟨taken, hs⟩
  | sequence first second ihf ihs =>
    obtain ⟨u, hu, ht⟩ := h
    obtain ⟨xs, hx⟩ := ihf hu
    obtain ⟨ys, hy⟩ := ihs ht
    exact ⟨xs ++ ys, hx.trans hy⟩
  | choice first second ihf ihs => exact h.elim ihf ihs
  | optional body ih =>
    rcases h with h | rfl
    · exact ih h
    · exact ⟨[], Spot.Spans.refl _⟩
  | repeated body ih => exact Rounds.exists_spans h fun _ _ => ih
  | group name body ih =>
    obtain ⟨u, hu, rfl⟩ := h
    obtain ⟨taken, hs⟩ := ih hu
    exact ⟨taken, hs.capture name⟩
  | wordEdge | textStart | textEnd =>
    obtain ⟨_, rfl⟩ := h
    exact ⟨[], Spot.Spans.refl _⟩

section Completeness

variable {β : Type}

theorem Rounds.isSome_rounds {step : (Spot → Option β) → Spot → Option β}
    {meets : Spot → Spot → Prop} {goOn : Spot → Option β} {s t : Spot} (h : Rounds meets s t)
    (hm : ∀ goOn s t, meets s t → (goOn t).isSome → (step goOn s).isSome)
    (hs : ∀ s t, meets s t → ∃ taken, s.Spans taken t) (k : (goOn t).isSome) {bound : Nat}
    (hb : s.rest.length ≤ bound) : (rounds step goOn bound s).isSome := by
  induction h generalizing bound with
  | stop s =>
    cases bound with
    | zero => exact k
    | succ bound =>
      rw [rounds]
      simp [k]
  | @next s t u hst hlt _ ih =>
    -- A round that moves ahead leaves less of the text, so that the bound suffices.
    obtain ⟨taken, hspans⟩ := hs _ _ hst
    have hlength : s.rest.length = taken.length + t.rest.length := by
      rw [hspans.rest, List.length_append]
    have hoffset := hspans.offset
    obtain ⟨bound, rfl⟩ : ∃ n, bound = n + 1 := ⟨bound - 1, by omega⟩
    have hround : (step (fun v => if s.offset < v.offset then rounds step goOn bound v else none)
        s).isSome := by
      refine hm _ _ _ hst ?_
      rw [if_pos hlt]
      exact ih k (by omega)
    rw [rounds]
    simp [hround]

theorem Meets.isSome_tryAt {p : Pattern} {goOn : Spot → Option β} {s t : Spot} (h : p.Meets s t)
    (k : (goOn t).isSome) : (p.tryAt goOn s).isSome := by
  induction p generalizing goOn s t with
  | empty =>
    obtain rfl := h
    exact k
  | one accepts =>
    obtain ⟨c, rest, hr, ha, rfl⟩ := h
    simpa only [tryAt, hr, ha, if_true] using k
  | most accepts =>
    exact List.findSome?_isSome_iff.2 ⟨t, List.mem_reverse.2 h, k⟩
  | fewest accepts => exact List.findSome?_isSome_iff.2 ⟨t, h, k⟩
  | sequence first second ihf ihs =>
    obtain ⟨u, hu, ht⟩ := h
    exact ihf hu (ihs ht k)
  | choice first second ihf ihs =>
    rcases h with h | h
    · simp [tryAt, ihf h k]
    · simp [tryAt, ihs h k]
  | optional body ih =>
    rcases h with h | rfl
    · simp [tryAt, ih h k]
    · simp [tryAt, k]
  | repeated body ih =>
    exact Rounds.isSome_rounds h (fun _ _ _ hm hk => ih hm hk) (fun _ _ hm => hm.exists_spans) k
      (Nat.le_refl _)
  | group name body ih =>
    obtain ⟨u, hu, rfl⟩ := h
    exact ih hu k
  | wordEdge | textStart | textEnd =>
    obtain ⟨he, rfl⟩ := h
    simpa only [tryAt, he, if_true] using k

end Completeness

def AddsOnly (names : List String) (s t : Spot) : Prop :=
  ∃ new, t.captures = new ++ s.captures ∧ ∀ c ∈ new, c.name ∈ names

theorem AddsOnly.refl (names : List String) (s : Spot) : AddsOnly names s s :=
  ⟨[], rfl, by simp⟩

theorem addsOnly_of_eq {names : List String} {s t : Spot} (h : t.captures = s.captures) :
    AddsOnly names s t :=
  ⟨[], h, by simp⟩

theorem AddsOnly.trans {xs ys zs : List String} {s t u : Spot} (h : AddsOnly xs s t)
    (k : AddsOnly ys t u) (hx : ∀ x ∈ xs, x ∈ zs) (hy : ∀ y ∈ ys, y ∈ zs) : AddsOnly zs s u := by
  obtain ⟨first, hf, hfn⟩ := h
  obtain ⟨second, hs, hsn⟩ := k
  refine ⟨second ++ first, by rw [hs, hf, List.append_assoc], fun c hc => ?_⟩
  rcases List.mem_append.1 hc with hc | hc
  · exact hy _ (hsn c hc)
  · exact hx _ (hfn c hc)

theorem Rounds.addsOnly {names : List String} {step : Spot → Spot → Prop} {s t : Spot}
    (h : Rounds step s t) (k : ∀ s t, step s t → AddsOnly names s t) : AddsOnly names s t := by
  induction h with
  | stop s => exact AddsOnly.refl names s
  | next hs _ _ ih => exact (k _ _ hs).trans ih (fun _ => id) fun _ => id

theorem Meets.addsOnly {p : Pattern} {s t : Spot} (h : p.Meets s t) :
    AddsOnly p.groupNames s t := by
  induction p generalizing s t with
  | empty =>
    obtain rfl := h
    exact AddsOnly.refl _ _
  | one accepts =>
    obtain ⟨c, rest, _, _, rfl⟩ := h
    exact addsOnly_of_eq rfl
  | most accepts | fewest accepts =>
    obtain ⟨taken, _, _, hc⟩ := Spot.mem_run_iff.1 h
    exact addsOnly_of_eq hc
  | sequence first second ihf ihs =>
    obtain ⟨u, hu, ht⟩ := h
    exact (ihf hu).trans (ihs ht) (fun _ => List.mem_append_left _) fun _ => List.mem_append_right _
  | choice first second ihf ihs =>
    rcases h with h | h
    · exact (ihf h).trans (AddsOnly.refl [] _) (fun _ => List.mem_append_left _) (by simp)
    · exact (ihs h).trans (AddsOnly.refl [] _) (fun _ => List.mem_append_right _) (by simp)
  | optional body ih =>
    rcases h with h | rfl
    · exact ih h
    · exact AddsOnly.refl _ _
  | repeated body ih => exact Rounds.addsOnly h fun _ _ => ih
  | group name body ih =>
    obtain ⟨u, hu, rfl⟩ := h
    obtain ⟨new, hn, hm⟩ := ih hu
    refine ⟨⟨name, s.offset, s.rest, u.offset - s.offset⟩ :: new, ?_, ?_⟩
    · rw [Spot.capture, hn, List.cons_append]
    · exact List.forall_mem_cons.2
        ⟨List.mem_cons_self, fun c hc => List.mem_cons_of_mem _ (hm c hc)⟩
  | wordEdge | textStart | textEnd =>
    obtain ⟨_, rfl⟩ := h
    exact AddsOnly.refl _ _

def Spot.text? (s : Spot) (name : String) : Option (List Char) :=
  (s.captures.find? (·.name == name)).map Capture.text

theorem Meets.text?_eq {p : Pattern} {s t : Spot} (h : p.Meets s t) {name : String}
    (k : name ∉ p.groupNames) : t.text? name = s.text? name := by
  obtain ⟨new, hn, hm⟩ := h.addsOnly
  have hnew : new.find? (·.name == name) = none := by
    rw [List.find?_eq_none]
    intro c hc hname
    exact k (beq_iff_eq.1 hname ▸ hm c hc)
  rw [Spot.text?, hn, List.find?_append, hnew, Option.none_or, Spot.text?]

theorem Spot.text?_capture {s t : Spot} {taken : List Char} (h : s.Spans taken t) (name : String) :
    (t.capture name s).text? name = some taken := by
  simp [Spot.text?, Spot.capture, Capture.text, h.take]

end SchemaText.Pattern
