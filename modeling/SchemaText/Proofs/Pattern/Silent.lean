import SchemaText.Proofs.Pattern.Takes
import SchemaText.Proofs.Text.Letter
/-! Stretches of text in which no match of a pattern starts, and searches that pass over them. -/

namespace SchemaText.Pattern

open Diagram (isPlain)
open Text (Stops stops_nil stops_cons isBlank isWord sameLetter)

section Alternatives

variable {p q r : Pattern} {rest : List Char}

theorem FailsOn.optional_append (h : (p ++ q).FailsOn rest) (k : q.FailsOn rest) :
    (Pattern.optional p ++ q).FailsOn rest := by
  intro s hs β goOn
  change (p.tryAt (q.tryAt goOn) s <|> q.tryAt goOn s) = none
  rw [show p.tryAt (q.tryAt goOn) s = none from h s hs goOn, k s hs goOn]
  rfl

theorem FailsOn.orElse_append (h : (p ++ r).FailsOn rest) (k : (q ++ r).FailsOn rest) :
    ((p <|> q) ++ r).FailsOn rest := by
  intro s hs β goOn
  change (p.tryAt (r.tryAt goOn) s <|> q.tryAt (r.tryAt goOn) s) = none
  rw [show p.tryAt (r.tryAt goOn) s = none from h s hs goOn,
    show q.tryAt (r.tryAt goOn) s = none from k s hs goOn]
  rfl

theorem FailsOn.one_append {accepts : Char → Bool} {c : Char}
    (h : accepts c → q.FailsOn rest) : (one accepts ++ q).FailsOn (c :: rest) := by
  intro s hs β goOn
  change (one accepts).tryAt (q.tryAt goOn) s = none
  simp only [tryAt, hs]
  by_cases ha : accepts c
  · rw [if_pos ha, h ha (s.after c rest) rfl]
  · rw [if_neg ha]

end Alternatives

section Keywords

variable {letters : String} {q : Pattern} {text rest : List Char}

/-- A word is spelled with these letters, in any case. -/
def spells (letters : String) (text : List Char) : Bool :=
  letters.toList.isEqv text sameLetter

theorem word_meets {s t : Spot} (h : (word letters).Meets s t) (hs : s.rest = text ++ rest)
    (hl : letters.toList.all isPlain) (hr : Stops isWord rest) :
    ∃ front back, text = front ++ back ∧ spells letters front ∧ t.rest = back ++ rest := by
  have hl := List.all_eq_true.1 hl
  unfold spells
  unfold word at h
  generalize letters.toList = cs at h hl ⊢
  induction cs generalizing s text with
  | nil =>
    obtain rfl := h
    exact ⟨[], text, rfl, rfl, hs⟩
  | cons letter cs ih =>
    obtain ⟨_, ⟨c, after, hc, ha, rfl⟩, ht⟩ := h
    rw [hs] at hc
    cases text with
    | nil =>
      have hw := Text.isWord_of_sameLetter (hl letter (by simp)) ha
      obtain rfl : rest = c :: after := hc
      simp [stops_cons.1 hr] at hw
    | cons d text =>
      obtain ⟨rfl, ht'⟩ := List.cons.inj hc
      obtain ⟨front, back, hx, hf, hb⟩ := ih ht'.symm ht fun e he => hl e (by simp [he])
      exact ⟨d :: front, back, by rw [hx, List.cons_append], by simp [List.isEqv, ha, hf], hb⟩

inductive Bars (q : Pattern) : List Char → Prop where
  | stop {rest : List Char} (h : Stops isBlank rest) : Bars q rest
  | space {rest : List Char} (h : Stops isBlank rest) (k : q.FailsOn rest) : Bars q (' ' :: rest)

theorem Bars.failsOn_of_meets {s t : Spot} (h : q.Bars rest) (hs : s.rest = rest)
    (k : blanks.Meets s t) : q.FailsOn t.rest := by
  obtain ⟨taken, hsp, hne, ha⟩ := oneOrMore_meets k
  obtain ⟨c, taken, rfl⟩ := List.exists_cons_of_ne_nil hne
  have hc : isBlank c := ha c (by simp)
  have hr : rest = c :: (taken ++ t.rest) := hs.symm.trans hsp.rest
  cases h with
  | stop hstop =>
    rw [hr] at hstop
    simp [stops_cons.1 hstop] at hc
  | @space rest hstop hf =>
    obtain ⟨_, rfl⟩ := List.cons.inj hr
    cases taken with
    | nil => exact hf
    | cons d taken =>
      have hd : isBlank d := ha d (by simp)
      simp [stops_cons.1 hstop] at hd

theorem Bars.failsOn (h : q.Bars rest) : (blanks ++ q).FailsOn rest := by
  intro s hs
  subst hs
  exact fails_append fun t ht => h.failsOn_of_meets rfl ht t rfl

theorem bars_append_of_ne_nil (h : ∀ c ∈ text, isPlain c) (hne : text ≠ []) (rest : List Char) :
    q.Bars (text ++ rest) := by
  obtain ⟨c, text, rfl⟩ := List.exists_cons_of_ne_nil hne
  exact .stop (stops_cons.2 (Diagram.isBlank_eq_false_of_isPlain (h c (by simp))))

theorem failsOn_word_wordEdge (hl : letters.toList.all isPlain) (hne : letters.toList ≠ [])
    (ht : ∀ c ∈ text, isPlain c) (hr : Stops isWord rest) (h : spells letters text = false) :
    (word letters ++ wordEdge).FailsOn (text ++ rest) := by
  intro s hs
  refine fails_append fun t hw => fails_of_forall_not_meets fun u hu => ?_
  -- The keyword takes up the front of the word; what is left of the word leaves no edge.
  obtain ⟨front, back, rfl, hf, hb⟩ := word_meets hw hs hl hr
  obtain ⟨taken, hsp⟩ := hw.exists_spans
  have htaken : taken = front := by
    have he := hsp.rest
    rw [hs, hb, List.append_assoc] at he
    exact (List.append_cancel_right he).symm
  have hfront : front ≠ [] := by
    rintro rfl
    simp [spells, List.isEqv, hne] at hf
  have hback : back ≠ [] := by
    rintro rfl
    simp [hf] at h
  obtain ⟨d, ds, rfl⟩ := List.exists_cons_of_ne_nil hback
  have hlast := List.getLast?_eq_some_getLast hfront
  have hc : isWord (front.getLast hfront) :=
    Text.isWord_of_isPlain (ht _ (List.mem_append_left _ (List.getLast_mem hfront)))
  have hd : isWord d := Text.isWord_of_isPlain (ht d (by simp))
  have hbefore : t.before = some (front.getLast hfront) := by
    rw [hsp.before, htaken, hlast]
    rfl
  have hedge := hu.1
  simp [Spot.atWordEdge, hbefore, hb, hc, hd] at hedge

theorem failsOn_of_keyword_meets {s t : Spot} (k : (word letters ++ blanks).Meets s t)
    (hs : s.rest = text ++ rest) (hl : letters.toList.all isPlain) (ht : ∀ c ∈ text, isPlain c)
    (hr : Stops isWord rest) (h : spells letters text → q.Bars rest) : q.FailsOn t.rest := by
  obtain ⟨u, hw, hk⟩ := k
  obtain ⟨front, back, rfl, hf, hb⟩ := word_meets hw hs hl hr
  -- A keyword that is only the front of the word would need a blank within the word.
  have hbars : q.Bars (back ++ rest) := by
    by_cases hne : back = []
    · subst hne
      exact h (by simpa using hf)
    · exact bars_append_of_ne_nil (fun d hd => ht d (List.mem_append_right _ hd)) hne rest
  exact hbars.failsOn_of_meets hb hk

theorem failsOn_keyword_append (hl : letters.toList.all isPlain) (ht : ∀ c ∈ text, isPlain c)
    (hr : Stops isWord rest) (h : spells letters text → q.Bars rest) :
    (word letters ++ (blanks ++ q)).FailsOn (text ++ rest) := by
  intro s hs
  have hf : ((word letters ++ blanks) ++ q).Fails s :=
    fails_append fun t hk => failsOn_of_keyword_meets hk hs hl ht hr h t rfl
  exact fun _ goOn => hf goOn

theorem failsOn_group_keyword_append (name : String) (hl : letters.toList.all isPlain)
    (ht : ∀ c ∈ text, isPlain c) (hr : Stops isWord rest) (h : spells letters text → q.Bars rest) :
    (group name (word letters ++ blanks) ++ q).FailsOn (text ++ rest) := by
  intro s hs
  refine fails_append fun t hk => ?_
  obtain ⟨u, hu, rfl⟩ := hk
  exact failsOn_of_keyword_meets hu hs hl ht hr h _ rfl

end Keywords

def keyed (letters : String) (q : Pattern) : Pattern :=
  wordEdge ++ (word letters ++ (blanks ++ q))

def Silent (p : Pattern) (xs rest : List Char) : Prop :=
  ∀ s : Spot, s.rest = xs ++ rest → ∀ ys zs, xs = ys ++ zs → zs ≠ [] →
    p.Fails (s.past ys (zs ++ rest))

section Silence

variable {p : Pattern} {xs ys rest : List Char}

theorem silent_nil (p : Pattern) (rest : List Char) : p.Silent [] rest := by
  intro s _ ys zs he hz
  obtain ⟨rfl, rfl⟩ := List.append_eq_nil_iff.1 he.symm
  exact absurd rfl hz

theorem Silent.append (h : p.Silent xs (ys ++ rest)) (k : p.Silent ys rest) :
    p.Silent (xs ++ ys) rest := by
  intro s hs us vs he hv
  rw [List.append_assoc] at hs
  have hin (ws : List Char) (hu : us = xs ++ ws) (hy : ys = ws ++ vs) :
      p.Fails (s.past us (vs ++ rest)) := by
    have hk := k (s.past xs (ys ++ rest)) rfl ws vs hy hv
    rwa [Spot.past_past, ← hu] at hk
  -- A place in the middle of both texts lies within one of them.
  rcases List.append_eq_append_iff.1 he with ⟨ws, hu, hy⟩ | ⟨ws, hx, hw⟩
  · exact hin ws hu hy
  · cases ws with
    | nil => exact hin [] (by simpa using hx.symm) (by simpa using hw.symm)
    | cons c ws =>
      have hh := h s hs us (c :: ws) hx (by simp)
      rwa [← List.append_assoc, ← hw] at hh

theorem Agrees.silent {p' : Pattern} (h : p.Agrees p') (k : p'.Silent xs rest) :
    p.Silent xs rest := by
  intro s hs ys zs he hz β goOn
  rw [h]
  exact k s hs ys zs he hz goOn

theorem Silent.orElse {p' : Pattern} (h : p.Silent xs rest) (k : p'.Silent xs rest) :
    (p <|> p').Silent xs rest :=
  fun s hs ys zs he hz => (h s hs ys zs he hz).orElse (k s hs ys zs he hz)

theorem silent_singleton {c : Char} (h : p.FailsOn (c :: rest)) : p.Silent [c] rest := by
  intro s hs ys zs he hz
  cases ys with
  | nil =>
    obtain rfl : zs = [c] := he.symm
    exact h _ rfl
  | cons d ys =>
    have hn : ys ++ zs = [] := (List.cons.inj he).2.symm
    exact absurd (List.append_eq_nil_iff.1 hn).2 hz

variable {letters : String} {q : Pattern}

theorem FailsOn.keyed (h : (word letters ++ (blanks ++ q)).FailsOn rest) :
    (keyed letters q).FailsOn rest := by
  intro s hs
  refine fails_append fun t ht => ?_
  obtain ⟨_, rfl⟩ := ht
  exact h _ hs

theorem failsOn_keyed_of_stops (hl : letters.toList.all isPlain) (hn : spells letters [] = false)
    (hr : Stops isWord rest) : (keyed letters q).FailsOn rest := by
  have hf : (word letters ++ (blanks ++ q)).FailsOn ([] ++ rest) :=
    failsOn_keyword_append hl (by simp) hr fun hs => by simp [hn] at hs
  exact FailsOn.keyed hf

theorem silent_run {text : List Char} (hl : letters.toList.all isPlain)
    (ht : ∀ c ∈ text, isWord c) (hr : Stops isWord rest)
    (h : spells letters text → (blanks ++ q).FailsOn rest) :
    (keyed letters q).Silent text rest := by
  intro s hs ys zs he hz
  refine fails_append fun t hedge => ?_
  obtain ⟨hedge, rfl⟩ := hedge
  -- Within the word there is a letter before the place, and so no edge.
  cases hy : ys.getLast? with
  | none =>
    obtain rfl := List.getLast?_eq_none_iff.1 hy
    obtain rfl : text = zs := he
    refine fails_append fun u hu => ?_
    obtain ⟨front, back, rfl, hf, hb⟩ := word_meets hu rfl hl hr
    cases back with
    | nil =>
      rw [List.append_nil] at h
      exact h hf _ hb
    | cons d back =>
      have hd : isWord d := ht d (by simp)
      have hblanks : blanks.FailsOn (d :: (back ++ rest)) :=
        (failsOn_one (stops_cons.2 (Text.isBlank_eq_false_of_isWord hd))).append _
      exact hblanks.append q _ hb
  | some c =>
    obtain ⟨d, zs, rfl⟩ := List.exists_cons_of_ne_nil hz
    have hc : isWord c := ht c (by
      rw [he]
      exact List.mem_append_left _ (List.mem_of_getLast? hy))
    have hd : isWord d := ht d (by simp [he])
    simp [Spot.atWordEdge, Spot.past, hy, hc, hd] at hedge

theorem silent_word {text : List Char} (hl : letters.toList.all isPlain)
    (ht : ∀ c ∈ text, isPlain c) (hr : Stops isWord rest)
    (h : spells letters text → q.Bars rest) : (keyed letters q).Silent text rest :=
  silent_run hl (fun c hc => Text.isWord_of_isPlain (ht c hc)) hr fun hs => (h hs).failsOn

def departs : List Char → List Char → Bool
  | letter :: letters, c :: text => !sameLetter letter c || departs letters text
  | _, _ => false

theorem failsOn_word_of_departs {text : List Char} (h : departs letters.toList text) :
    (word letters ++ q).FailsOn (text ++ rest) := by
  unfold word
  generalize letters.toList = cs at h ⊢
  induction cs generalizing text with
  | nil => simp [departs] at h
  | cons letter cs ih =>
    cases text with
    | nil => simp [departs] at h
    | cons c text =>
      simp only [departs, Bool.or_eq_true, Bool.not_eq_true'] at h
      rcases h with h | h
      · exact ((failsOn_one (stops_cons.2 h)).append _).append q
      · exact FailsOn.one_append fun _ => ih h

def avoids (letters : List Char) : List Char → Bool
  | [] => true
  | c :: text => departs letters (c :: text) && avoids letters text

theorem silent_of_avoids {text : List Char} (h : avoids letters.toList text) :
    (keyed letters q).Silent text rest := by
  induction text with
  | nil => exact silent_nil _ _
  | cons c text ih =>
    obtain ⟨hc, ht⟩ := Bool.and_eq_true_iff.1 h
    have hf : (keyed letters q).FailsOn ((c :: text) ++ rest) :=
      (failsOn_word_of_departs hc).keyed
    exact (silent_singleton hf).append (ih ht)

end Silence

section Searches

variable {p : Pattern} {s t : Spot} {xs rest : List Char}

def Spot.onward (s : Spot) : List Spot :=
  s.run fun _ => true

theorem Spot.onward_cons {c : Char} (h : s.rest = c :: rest) :
    s.onward = s :: (s.past [c] rest).onward := by
  obtain ⟨offset, before, text, captures⟩ := s
  obtain rfl : text = c :: rest := h
  rfl

theorem findFrom_of_silent (h : p.Silent xs rest) (hs : s.rest = xs ++ rest) (free : Nat) :
    p.findFrom free s.onward = p.findFrom free (s.past xs rest).onward := by
  have hf := h s hs
  -- Silence is about the whole stretch; the induction keeps what it says of the places.
  clear h
  induction xs generalizing s with
  | nil => rw [Spot.past_nil (by simpa using hs)]
  | cons c xs ih =>
    have hm : p.matchAt s = none := by
      have hh := (hf [] (c :: xs) rfl (by simp)).matchAt
      rwa [Spot.past_nil hs] at hh
    have hn : ∀ ys zs, xs = ys ++ zs → zs ≠ [] →
        p.Fails ((s.past [c] (xs ++ rest)).past ys (zs ++ rest)) := by
      intro ys zs he hz
      rw [Spot.past_past]
      exact hf (c :: ys) zs (by rw [he, List.cons_append]) hz
    rw [List.cons_append] at hs
    rw [Spot.onward_cons hs, findFrom, hm, ite_self, ih rfl hn, Spot.past_past]
    rfl

theorem findFrom_of_le (hs : s.rest = xs ++ rest) {free : Nat} (h : s.offset + xs.length ≤ free) :
    p.findFrom free s.onward = p.findFrom free (s.past xs rest).onward := by
  induction xs generalizing s with
  | nil => rw [Spot.past_nil (by simpa using hs)]
  | cons c xs ih =>
    have hl : s.offset < free := by
      rw [List.length_cons] at h
      omega
    have hn : (s.past [c] (xs ++ rest)).offset + xs.length ≤ free := by
      simp only [Spot.past, List.length_cons, List.length_nil] at h ⊢
      omega
    rw [List.cons_append] at hs
    rw [Spot.onward_cons hs, findFrom, if_pos hl, ih rfl hn, Spot.past_past]
    rfl

theorem findFrom_end (he : p.FailsOn []) (hs : s.rest = []) (free : Nat) :
    p.findFrom free s.onward = [] := by
  obtain ⟨offset, before, text, captures⟩ := s
  obtain rfl : text = [] := hs
  change p.findFrom free [⟨offset, before, [], captures⟩] = []
  rw [findFrom, (he ⟨offset, before, [], captures⟩ rfl).matchAt, findFrom, ite_self]

theorem findFrom_of_match {m : Match} (hs : s.rest = xs ++ rest) (hne : xs ≠ [])
    (h : p.matchAt s = some m) (hm : m.stop = s.offset + xs.length) {free : Nat}
    (hf : free ≤ s.offset) :
    p.findFrom free s.onward = m :: p.findFrom m.stop (s.past xs rest).onward := by
  obtain ⟨c, xs, rfl⟩ := List.exists_cons_of_ne_nil hne
  have hmax : max m.stop (s.offset + 1) = m.stop := by
    rw [hm, List.length_cons]
    omega
  have hle : (s.past [c] (xs ++ rest)).offset + xs.length ≤ m.stop := by
    simp only [Spot.past, hm, List.length_cons, List.length_nil]
    omega
  rw [List.cons_append] at hs
  rw [Spot.onward_cons hs, findFrom, if_neg (by omega), h]
  simp only []
  rw [hmax, findFrom_of_le rfl hle, Spot.past_past]
  rfl

end Searches

end SchemaText.Pattern
