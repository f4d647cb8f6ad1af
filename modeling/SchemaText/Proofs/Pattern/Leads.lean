import SchemaText.Proofs.Pattern.Found
import SchemaText.Proofs.Text.Trim
/-! The preferred way to meet a pattern in a text that is partly known. -/

namespace SchemaText.Pattern

open Text (Stops stops_nil stops_cons)

def Leads (p : Pattern) (s t : Spot) : Prop :=
  ∀ ⦃β : Type⦄ (goOn : Spot → Option β) (b : β), goOn t = some b → p.tryAt goOn s = some b

def Fails (p : Pattern) (s : Spot) : Prop :=
  ∀ ⦃β : Type⦄ (goOn : Spot → Option β), p.tryAt goOn s = none

theorem fails_of_forall_not_meets {p : Pattern} {s : Spot} (h : ∀ t, ¬ p.Meets s t) :
    p.Fails s := by
  intro β goOn
  cases hb : p.tryAt goOn s with
  | none => rfl
  | some b =>
    obtain ⟨t, ht, _⟩ := exists_meets_of_tryAt p hb
    exact absurd ht (h t)

theorem fails_append {p q : Pattern} {s : Spot} (h : ∀ t, p.Meets s t → q.Fails t) :
    (p ++ q).Fails s := by
  intro β goOn
  cases hb : (p ++ q).tryAt goOn s with
  | none => rfl
  | some b =>
    obtain ⟨t, ht, hq⟩ := exists_meets_of_tryAt p hb
    rw [h t ht] at hq
    cases hq

theorem Fails.append {p : Pattern} {s : Spot} (h : p.Fails s) (q : Pattern) : (p ++ q).Fails s :=
  fun _ _ => h _

theorem Fails.matchAt {p : Pattern} {s : Spot} (h : p.Fails s) : p.matchAt s = none :=
  h _

theorem Leads.matchAt {p : Pattern} {s t : Spot} (h : p.Leads s t) :
    p.matchAt s = some (matchOf s t) :=
  h _ _ rfl

theorem leads_empty (s : Spot) : empty.Leads s s :=
  fun _ _ _ => id

theorem Leads.append {p q : Pattern} {s t u : Spot} (h : p.Leads s t) (k : q.Leads t u) :
    (p ++ q).Leads s u :=
  fun _ goOn b hb => h _ b (k goOn b hb)

theorem Leads.group {p : Pattern} {s t : Spot} (h : p.Leads s t) (name : String) :
    (group name p).Leads s (t.capture name s) :=
  fun _ _ b hb => h _ b hb

theorem Leads.optional {p : Pattern} {s t : Spot} (h : p.Leads s t) : (optional p).Leads s t := by
  intro β goOn b hb
  have hp := h goOn b hb
  simp only [tryAt, hp]
  rfl

theorem Fails.optional {p : Pattern} {s : Spot} (h : p.Fails s) : (optional p).Leads s s := by
  intro β goOn b hb
  simp only [tryAt, h goOn, hb]
  rfl

theorem leads_optional_append {p q : Pattern} {s t : Spot} (h : (p ++ q).Fails s)
    (k : q.Leads s t) : (Pattern.optional p ++ q).Leads s t := by
  intro β goOn b hb
  have hp : p.tryAt (q.tryAt goOn) s = none := h goOn
  have hq := k goOn b hb
  change (p.tryAt (q.tryAt goOn) s <|> q.tryAt goOn s) = some b
  rw [hp, hq]
  rfl

theorem Leads.orElse {p : Pattern} {s t : Spot} (h : p.Leads s t) (q : Pattern) :
    (p <|> q).Leads s t := by
  intro β goOn b hb
  have hp := h goOn b hb
  change (p.tryAt goOn s <|> q.tryAt goOn s) = some b
  rw [hp]
  rfl

theorem Fails.orElse_leads {p q : Pattern} {s t : Spot} (h : p.Fails s) (k : q.Leads s t) :
    (p <|> q).Leads s t := by
  intro β goOn b hb
  change (p.tryAt goOn s <|> q.tryAt goOn s) = some b
  rw [h goOn, k goOn b hb]
  rfl

theorem Fails.orElse {p q : Pattern} {s : Spot} (h : p.Fails s) (k : q.Fails s) :
    (p <|> q).Fails s := by
  intro β goOn
  change (p.tryAt goOn s <|> q.tryAt goOn s) = none
  rw [h goOn, k goOn]
  rfl

theorem leads_wordEdge {s : Spot} (h : s.atWordEdge) : wordEdge.Leads s s := by
  intro β goOn b hb
  rw [tryAt, if_pos h, hb]

theorem leads_textStart {s : Spot} (h : s.offset = 0) : textStart.Leads s s := by
  intro β goOn b hb
  rw [tryAt, if_pos h, hb]

theorem leads_textEnd {s : Spot} (h : s.rest = []) : textEnd.Leads s s := by
  intro β goOn b hb
  rw [tryAt, if_pos (by simp [Spot.atTextEnd, h]), hb]

def Spot.past (s : Spot) (taken rest : List Char) : Spot :=
  ⟨s.offset + taken.length, taken.getLast?.or s.before, rest, s.captures⟩

theorem Spot.past_nil {s : Spot} {rest : List Char} (h : s.rest = rest) : s.past [] rest = s := by
  obtain ⟨offset, before, _, captures⟩ := s
  cases h
  rfl

theorem Spot.past_past (s : Spot) (xs ys middle rest : List Char) :
    (s.past xs middle).past ys rest = s.past (xs ++ ys) rest := by
  simp only [Spot.past, List.length_append, List.getLast?_append, Nat.add_assoc]
  cases ys.getLast? <;> rfl

theorem leads_one {accepts : Char → Bool} {s : Spot} {c : Char} {rest : List Char}
    (h : s.rest = c :: rest) (k : accepts c) : (one accepts).Leads s (s.past [c] rest) := by
  intro β goOn b hb
  simp only [tryAt, h, k, if_true]
  exact hb

theorem leads_char {s : Spot} {c : Char} {rest : List Char} (h : s.rest = c :: rest) :
    (char c).Leads s (s.past [c] rest) :=
  leads_one h (by simp)

theorem Spot.getLast?_runFrom {accepts : Char → Bool} {captures : List Capture}
    {run rest : List Char}
    (h : ∀ c ∈ run, accepts c) (k : Stops accepts rest) (offset : Nat) (before : Option Char) :
    (runFrom accepts captures offset before (run ++ rest)).getLast? =
      some ((⟨offset, before, run ++ rest, captures⟩ : Spot).past run rest) := by
  induction run generalizing offset before with
  | nil =>
    rw [List.nil_append, past_nil rfl]
    cases rest with
    | nil => rfl
    | cons c rest =>
      have hc : accepts c = false := k c rfl
      simp [runFrom, hc]
  | cons c run ih =>
    have hc : accepts c := h c (by simp)
    have hl := ih (fun d hd => h d (by simp [hd])) (offset + 1) (some c)
    have hp : (⟨offset, before, c :: run ++ rest, captures⟩ : Spot).past (c :: run) rest =
        (⟨offset + 1, some c, run ++ rest, captures⟩ : Spot).past run rest := by
      simp only [past, List.length_cons, List.getLast?_cons, Nat.add_assoc, Nat.add_comm 1]
      cases run.getLast? <;> rfl
    rw [List.cons_append, runFrom, if_pos hc, List.getLast?_cons, hl, ← List.cons_append, hp]
    rfl

theorem leads_most {accepts : Char → Bool} {s : Spot} {run rest : List Char}
    (hs : s.rest = run ++ rest) (h : ∀ c ∈ run, accepts c) (k : Stops accepts rest) :
    (most accepts).Leads s (s.past run rest) := by
  intro β goOn b hb
  obtain ⟨offset, before, text, captures⟩ := s
  obtain rfl : text = run ++ rest := hs
  obtain ⟨earlier, he⟩ := List.getLast?_eq_some_iff.1
    (Spot.getLast?_runFrom h k offset before)
  -- The longest run is tried first, so it is the last place of the run that counts.
  have hr : (Spot.run accepts ⟨offset, before, run ++ rest, captures⟩).reverse =
      (⟨offset, before, run ++ rest, captures⟩ : Spot).past run rest :: earlier.reverse := by
    rw [Spot.run, he, List.reverse_append]
    rfl
  rw [tryAt, hr, List.findSome?_cons, hb]

theorem leads_oneOrMore {accepts : Char → Bool} {s : Spot} {run rest : List Char}
    (hs : s.rest = run ++ rest) (hne : run ≠ []) (h : ∀ c ∈ run, accepts c)
    (k : Stops accepts rest) : (oneOrMore accepts).Leads s (s.past run rest) := by
  obtain ⟨c, run, rfl⟩ := List.exists_cons_of_ne_nil hne
  have ho : (one accepts).Leads s (s.past [c] (run ++ rest)) := leads_one hs (h c (by simp))
  have hm := leads_most (s := s.past [c] (run ++ rest)) rfl (fun d hd => h d (by simp [hd])) k
  rw [Spot.past_past] at hm
  exact ho.append hm

theorem sameLetter_self (c : Char) : Text.sameLetter c c := by
  simp [Text.sameLetter]

theorem leads_word (letters : String) {s : Spot} {rest : List Char}
    (hs : s.rest = letters.toList ++ rest) :
    (word letters).Leads s (s.past letters.toList rest) := by
  unfold word
  generalize letters.toList = cs at hs ⊢
  induction cs generalizing s with
  | nil =>
    rw [Spot.past_nil (by simpa using hs)]
    exact leads_empty s
  | cons c cs ih =>
    have ho : (one (Text.sameLetter c)).Leads s (s.past [c] (cs ++ rest)) :=
      leads_one hs (sameLetter_self c)
    have hw := ih (s := s.past [c] (cs ++ rest)) rfl
    rw [Spot.past_past] at hw
    exact ho.append hw

theorem leads_blanks {s : Spot} {rest : List Char} (hs : s.rest = ' ' :: rest)
    (k : Stops Text.isBlank rest) : blanks.Leads s (s.past [' '] rest) :=
  leads_oneOrMore hs (by simp) (by simp [Text.isBlank_space]) k

theorem leads_gap_space {s : Spot} {rest : List Char} (hs : s.rest = ' ' :: rest)
    (k : Stops Text.isBlank rest) : gap.Leads s (s.past [' '] rest) :=
  leads_most hs (by simp [Text.isBlank_space]) k

def LeadsRounds (p : Pattern) (bound : Nat) (s t : Spot) : Prop :=
  ∀ ⦃β : Type⦄ (goOn : Spot → Option β) (b : β), goOn t = some b →
    rounds p.tryAt goOn bound s = some b

theorem LeadsRounds.repeated {p : Pattern} {s t : Spot} (h : LeadsRounds p s.rest.length s t) :
    (repeated p).Leads s t :=
  h

theorem Fails.leadsRounds {p : Pattern} {s : Spot} (h : p.Fails s) (bound : Nat) :
    LeadsRounds p bound s s := by
  intro β goOn b hb
  cases bound with
  | zero => exact hb
  | succ bound =>
    rw [rounds, h, hb]
    rfl

theorem Leads.next {p : Pattern} {s t u : Spot} {bound : Nat} (h : p.Leads s t)
    (hlt : s.offset < t.offset) (k : LeadsRounds p bound t u) :
    LeadsRounds p (bound + 1) s u := by
  intro β goOn b hb
  have ht : (if s.offset < t.offset then rounds p.tryAt goOn bound t else none) = some b := by
    rw [if_pos hlt, k goOn b hb]
  rw [rounds, h _ b ht]
  rfl

theorem findSome?_run {β : Type} {f : Spot → Option β} {b : β} {s : Spot} {run rest : List Char}
    (hs : s.rest = run ++ rest)
    (h : ∀ xs ys, run = xs ++ ys → ys ≠ [] → f (s.past xs (ys ++ rest)) = none)
    (k : f (s.past run rest) = some b) :
    (s.run fun _ => true).findSome? f = some b := by
  induction run generalizing s with
  | nil =>
    rw [Spot.past_nil (by simpa using hs)] at k
    obtain ⟨offset, before, text, captures⟩ := s
    cases text <;> simp [Spot.run, Spot.runFrom, k]
  | cons c run ih =>
    have hn := h [] (c :: run) rfl (by simp)
    rw [Spot.past_nil hs] at hn
    have hr : (s.run fun _ => true) = s :: ((s.past [c] (run ++ rest)).run fun _ => true) := by
      obtain ⟨offset, before, text, captures⟩ := s
      obtain rfl : text = c :: (run ++ rest) := hs
      rfl
    rw [hr, List.findSome?_cons, hn]
    refine ih rfl ?_ ?_
    · intro xs ys he hy
      rw [Spot.past_past]
      exact h (c :: xs) ys (by rw [he, List.cons_append]) hy
    · rwa [Spot.past_past]

theorem leads_fewest_append {q : Pattern} {name : String} {s t : Spot} {run rest : List Char}
    (hs : s.rest = run ++ rest)
    (h : ∀ xs ys, run = xs ++ ys → ys ≠ [] →
      q.Fails ((s.past xs (ys ++ rest)).capture name s))
    (k : q.Leads ((s.past run rest).capture name s) t) :
    (Pattern.group name (fewest fun _ => true) ++ q).Leads s t := by
  intro β goOn b hb
  have hn (xs ys : List Char) (he : run = xs ++ ys) (hy : ys ≠ []) :=
    h xs ys he hy goOn
  exact findSome?_run hs hn (k goOn b hb)

end SchemaText.Pattern
