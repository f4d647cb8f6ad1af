import SchemaText.Proofs.Pattern.Leads
/-! What a pattern takes of a text, wherever the text stands. -/

namespace SchemaText.Pattern

open Text (Stops stops_nil stops_cons)

/-- The names and texts of the captures so far. -/
def Spot.texts (s : Spot) : List (String × List Char) :=
  s.captures.map fun c => (c.name, c.text)

def Takes (p : Pattern) (taken rest : List Char) (texts : List (String × List Char)) : Prop :=
  ∀ s : Spot, s.rest = taken ++ rest →
    ∃ t, p.Leads s t ∧ s.Spans taken t ∧ t.rest = rest ∧ t.texts = texts ++ s.texts

def FailsOn (p : Pattern) (rest : List Char) : Prop :=
  ∀ s : Spot, s.rest = rest → p.Fails s

theorem Spot.spans_past {s : Spot} {taken rest : List Char} (h : s.rest = taken ++ rest) :
    s.Spans taken (s.past taken rest) :=
  ⟨h, rfl, rfl⟩

theorem takes_of_leads {p : Pattern} {taken rest : List Char}
    (h : ∀ s : Spot, s.rest = taken ++ rest → p.Leads s (s.past taken rest)) :
    p.Takes taken rest [] :=
  fun s hs => ⟨_, h s hs, Spot.spans_past hs, rfl, rfl⟩

theorem Takes.append {p q : Pattern} {xs ys rest : List Char} {a b : List (String × List Char)}
    (h : p.Takes xs (ys ++ rest) a) (k : q.Takes ys rest b) :
    (p ++ q).Takes (xs ++ ys) rest (b ++ a) := by
  intro s hs
  obtain ⟨t, ht, hst, hr, hx⟩ := h s (by rw [hs, List.append_assoc])
  obtain ⟨u, hu, htu, hur, huy⟩ := k t hr
  exact ⟨u, ht.append hu, hst.trans htu, hur, by rw [huy, hx, List.append_assoc]⟩

theorem Takes.group {p : Pattern} {taken rest : List Char} {texts : List (String × List Char)}
    (h : p.Takes taken rest texts) (name : String) :
    (group name p).Takes taken rest ((name, taken) :: texts) := by
  intro s hs
  obtain ⟨t, ht, hst, hr, hx⟩ := h s hs
  refine ⟨_, ht.group name, hst.capture name, hr, ?_⟩
  have hc : (t.capture name s).texts = (name, s.rest.take (t.offset - s.offset)) :: t.texts := rfl
  rw [hc, hst.take, hx, List.cons_append]

theorem Takes.nil_append {p q : Pattern} {taken rest : List Char} {a b : List (String × List Char)}
    (h : p.Takes [] (taken ++ rest) a) (k : q.Takes taken rest b) :
    (p ++ q).Takes taken rest (b ++ a) := by
  have hk : (p ++ q).Takes ([] ++ taken) rest (b ++ a) := h.append k
  exact hk

theorem Takes.append_nil {p q : Pattern} {taken rest : List Char} {a b : List (String × List Char)}
    (h : p.Takes taken rest a) (k : q.Takes [] rest b) : (p ++ q).Takes taken rest (b ++ a) := by
  have hk : (p ++ q).Takes (taken ++ []) rest (b ++ a) := h.append k
  rwa [List.append_nil] at hk

theorem takes_word (letters : String) (rest : List Char) :
    (word letters).Takes letters.toList rest [] :=
  takes_of_leads fun _ => leads_word letters

theorem takes_char (c : Char) (rest : List Char) : (char c).Takes [c] rest [] :=
  takes_of_leads fun _ => leads_char

theorem takes_most {accepts : Char → Bool} {run rest : List Char} (h : ∀ c ∈ run, accepts c)
    (k : Stops accepts rest) : (most accepts).Takes run rest [] :=
  takes_of_leads fun _ hs => leads_most hs h k

theorem takes_oneOrMore {accepts : Char → Bool} {run rest : List Char} (hne : run ≠ [])
    (h : ∀ c ∈ run, accepts c) (k : Stops accepts rest) :
    (oneOrMore accepts).Takes run rest [] :=
  takes_of_leads fun _ hs => leads_oneOrMore hs hne h k

theorem takes_blanks {rest : List Char} (k : Stops Text.isBlank rest) :
    blanks.Takes [' '] rest [] :=
  takes_of_leads fun _ hs => leads_blanks hs k

theorem takes_gap_space {rest : List Char} (k : Stops Text.isBlank rest) :
    gap.Takes [' '] rest [] :=
  takes_of_leads fun _ hs => leads_gap_space hs k

theorem takes_gap {rest : List Char} (k : Stops Text.isBlank rest) : gap.Takes [] rest [] :=
  takes_most (by simp) k

theorem Takes.optional {p : Pattern} {taken rest : List Char} {texts : List (String × List Char)}
    (h : p.Takes taken rest texts) : (optional p).Takes taken rest texts := by
  intro s hs
  obtain ⟨t, ht, hst⟩ := h s hs
  exact ⟨t, ht.optional, hst⟩

theorem takes_nothing {p : Pattern} {rest : List Char}
    (h : ∀ s : Spot, s.rest = rest → p.Leads s s) : p.Takes [] rest [] :=
  fun s hs => ⟨s, h s hs, Spot.Spans.refl s, hs, rfl⟩

theorem FailsOn.optional {p : Pattern} {rest : List Char} (h : p.FailsOn rest) :
    (optional p).Takes [] rest [] :=
  takes_nothing fun s hs => (h s hs).optional

theorem Takes.orElse {p : Pattern} {taken rest : List Char} {texts : List (String × List Char)}
    (h : p.Takes taken rest texts) (q : Pattern) : (p <|> q).Takes taken rest texts := by
  intro s hs
  obtain ⟨t, ht, hst⟩ := h s hs
  exact ⟨t, ht.orElse q, hst⟩

theorem FailsOn.orElse_takes {p q : Pattern} {taken rest : List Char}
    {texts : List (String × List Char)} (h : p.FailsOn (taken ++ rest))
    (k : q.Takes taken rest texts) : (p <|> q).Takes taken rest texts := by
  intro s hs
  obtain ⟨t, ht, hst⟩ := k s hs
  exact ⟨t, (h s hs).orElse_leads ht, hst⟩

def RoundsTake (p : Pattern) (taken rest : List Char) : Prop :=
  ∀ s : Spot, s.rest = taken ++ rest → ∀ bound, taken.length ≤ bound →
    ∃ t, LeadsRounds p bound s t ∧ s.Spans taken t ∧ t.rest = rest ∧ t.texts = s.texts

theorem FailsOn.roundsTake {p : Pattern} {rest : List Char} (h : p.FailsOn rest) :
    p.RoundsTake [] rest :=
  fun s hs bound _ => ⟨s, (h s hs).leadsRounds bound, Spot.Spans.refl s, hs, rfl⟩

theorem Takes.roundsTake {p : Pattern} {xs ys rest : List Char} (h : p.Takes xs (ys ++ rest) [])
    (hne : xs ≠ []) (k : p.RoundsTake ys rest) : p.RoundsTake (xs ++ ys) rest := by
  intro s hs bound hb
  have hlen : 0 < xs.length := List.length_pos_iff.2 hne
  rw [List.length_append] at hb
  obtain ⟨bound, rfl⟩ : ∃ n, bound = n + 1 := ⟨bound - 1, by omega⟩
  obtain ⟨t, ht, hst, hr, hx⟩ := h s (by rw [hs, List.append_assoc])
  obtain ⟨u, hu, htu, hur, hux⟩ := k t hr bound (by omega)
  -- A round that takes nothing would not count.
  have hlt : s.offset < t.offset := by
    rw [hst.offset]
    omega
  exact ⟨u, ht.next hlt hu, hst.trans htu, hur, by rw [hux, hx, List.nil_append]⟩

theorem RoundsTake.repeated {p : Pattern} {taken rest : List Char} (h : p.RoundsTake taken rest) :
    (repeated p).Takes taken rest [] := by
  intro s hs
  obtain ⟨t, ht, hst⟩ := h s hs s.rest.length (by rw [hs, List.length_append]; omega)
  exact ⟨t, ht.repeated, hst⟩

theorem takes_optional_append {p q : Pattern} {taken rest : List Char}
    {texts : List (String × List Char)} (h : (p ++ q).FailsOn (taken ++ rest))
    (k : q.Takes taken rest texts) : (Pattern.optional p ++ q).Takes taken rest texts := by
  intro s hs
  obtain ⟨t, ht, hst⟩ := k s hs
  exact ⟨t, leads_optional_append (h s hs) ht, hst⟩

theorem Takes.append_wordEdge {p : Pattern} {taken rest : List Char}
    {texts : List (String × List Char)} (h : p.Takes taken rest texts)
    (hl : taken.getLast?.any Text.isWord) (k : Stops Text.isWord rest) :
    (p ++ wordEdge).Takes taken rest texts := by
  intro s hs
  obtain ⟨t, ht, hst, hr, hx⟩ := h s hs
  have hb : t.before.any Text.isWord = true := by
    rw [hst.before]
    cases hg : taken.getLast? with
    | none => simp [hg] at hl
    | some c => simpa [hg] using hl
  have ha : t.rest.head?.any Text.isWord = false := by
    rw [hr]
    cases rest with
    | nil => rfl
    | cons c rest => simpa using k
  have he : t.atWordEdge := by
    rw [Spot.atWordEdge, hb, ha]
    rfl
  exact ⟨t, ht.append (leads_wordEdge he), hst, hr, hx⟩

theorem takes_fewest_append {q : Pattern} (name : String) {run taken rest : List Char}
    {texts : List (String × List Char)}
    (h : ∀ xs ys, run = xs ++ ys → ys ≠ [] → q.FailsOn (ys ++ (taken ++ rest)))
    (k : q.Takes taken rest texts) :
    (Pattern.group name (fewest fun _ => true) ++ q).Takes (run ++ taken) rest
      (texts ++ [(name, run)]) := by
  intro s hs
  rw [List.append_assoc] at hs
  have hsp := Spot.spans_past hs
  obtain ⟨t, ht, hst, hr, hx⟩ := k ((s.past run (taken ++ rest)).capture name s) rfl
  -- Shorter runs are tried first and fail, as what follows the group fails behind them.
  have hf (xs ys : List Char) (he : run = xs ++ ys) (hy : ys ≠ []) :
      q.Fails ((s.past xs (ys ++ (taken ++ rest))).capture name s) :=
    h xs ys he hy _ rfl
  refine ⟨t, leads_fewest_append hs hf ht, (hsp.capture name).trans hst, hr, ?_⟩
  have hc : ((s.past run (taken ++ rest)).capture name s).texts =
      (name, s.rest.take ((s.past run (taken ++ rest)).offset - s.offset)) :: s.texts := rfl
  rw [hx, hc, hsp.take, List.append_assoc, List.singleton_append]

section Failures

variable {p q : Pattern} {rest : List Char}

theorem FailsOn.append (h : p.FailsOn rest) (q : Pattern) : (p ++ q).FailsOn rest :=
  fun s hs => (h s hs).append q

theorem FailsOn.orElse (h : p.FailsOn rest) (k : q.FailsOn rest) : (p <|> q).FailsOn rest :=
  fun s hs => (h s hs).orElse (k s hs)

def Agrees (p q : Pattern) : Prop :=
  ∀ ⦃β : Type⦄ (goOn : Spot → Option β) (s : Spot), p.tryAt goOn s = q.tryAt goOn s

theorem Agrees.matchAt (h : p.Agrees q) (s : Spot) : p.matchAt s = q.matchAt s := by
  unfold Pattern.matchAt
  rw [h]

theorem Agrees.failsOn (h : p.Agrees q) (k : q.FailsOn rest) : p.FailsOn rest := by
  intro s hs β goOn
  rw [h]
  exact k s hs goOn

theorem FailsOn.of_forall (h : ∀ (offset : Nat) (before : Option Char) (captures : List Capture)
    ⦃β : Type⦄ (goOn : Spot → Option β), p.tryAt goOn ⟨offset, before, rest, captures⟩ = none) :
    p.FailsOn rest := by
  rintro ⟨offset, before, text, captures⟩ hs β goOn
  obtain rfl : text = rest := hs
  exact h offset before captures goOn

theorem failsOn_one {accepts : Char → Bool} (h : Stops accepts rest) :
    (one accepts).FailsOn rest := by
  intro s hs β goOn
  cases rest with
  | nil => simp only [tryAt, hs]
  | cons c rest =>
    have hc : accepts c = false := stops_cons.1 h
    simp [tryAt, hs, hc]

theorem failsOn_oneOrMore_append {accepts : Char → Bool} {run : List Char}
    (h : Stops accepts rest)
    (k : ∀ front back, run = front ++ back → q.FailsOn (back ++ rest)) :
    (oneOrMore accepts ++ q).FailsOn (run ++ rest) := by
  intro s hs
  refine fails_append fun t ht => ?_
  obtain ⟨taken, hsp, _, ha⟩ := oneOrMore_meets ht
  have hr : run ++ rest = taken ++ t.rest := hs.symm.trans hsp.rest
  rcases List.append_eq_append_iff.1 hr with ⟨more, rfl, hrest⟩ | ⟨back, hrun, hback⟩
  · cases more with
    | nil => exact k run [] (List.append_nil run).symm t hrest.symm
    | cons c more =>
      rw [hrest] at h
      have hc := ha c (List.mem_append_right _ List.mem_cons_self)
      rw [stops_cons.1 h] at hc
      cases hc
  · exact k taken back hrun t hback

theorem failsOn_char {c d : Char} (h : d ≠ c) (rest : List Char) : (char c).FailsOn (d :: rest) :=
  failsOn_one (stops_cons.2 (by simpa using h))

end Failures

theorem Takes.matchAt {p : Pattern} {taken rest : List Char} {texts : List (String × List Char)}
    (h : p.Takes taken rest texts) {s : Spot} (hs : s.rest = taken ++ rest) :
    ∃ t, p.matchAt s = some (matchOf s t) ∧ t.offset = s.offset + taken.length ∧
      t.texts = texts ++ s.texts := by
  obtain ⟨t, ht, hst, _, hx⟩ := h s hs
  exact ⟨t, ht.matchAt, hst.offset, hx⟩

theorem Spot.text?_eq_lookup (s : Spot) (name : String) :
    s.text? name = s.texts.lookup name := by
  unfold Spot.text? Spot.texts
  induction s.captures with
  | nil => rfl
  | cons c captures ih =>
    by_cases h : c.name = name
    · simp [h]
    · have hn : (name == c.name) = false := by simpa using Ne.symm h
      simp [List.lookup_cons, h, hn, ih]

end SchemaText.Pattern
