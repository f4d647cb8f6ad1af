import SchemaText.Proofs.Pattern.Parallel
/-! Words spelled in any case: where a text holds one, and searches for what starts with one. -/

namespace SchemaText.Pattern

open Diagram (isPlain)
open Text (Stops stops_nil stops_cons isBlank isWord sameLetter foldLetter)

section Spelling

variable {letters : String} {text : List Char}

theorem isEqv_iff_map {xs ys : List Char} :
    xs.isEqv ys sameLetter ↔ xs.map foldLetter = ys.map foldLetter := by
  induction xs generalizing ys with
  | nil => cases ys <;> simp [List.isEqv]
  | cons x xs ih => cases ys <;> simp [List.isEqv, ih, sameLetter]

theorem spells_iff_map :
    spells letters text ↔ letters.toList.map foldLetter = text.map foldLetter :=
  isEqv_iff_map

theorem spells_self (letters : String) : spells letters letters.toList :=
  spells_iff_map.2 rfl

theorem length_of_spells (h : spells letters text) : text.length = letters.toList.length := by
  have hlength := congrArg List.length (spells_iff_map.1 h)
  simpa using hlength.symm

theorem exists_letter {letters text : List Char} (h : letters.isEqv text sameLetter) :
    ∀ c ∈ text, ∃ letter ∈ letters, sameLetter letter c := by
  induction letters generalizing text with
  | nil =>
    cases text with
    | nil => simp
    | cons => cases h
  | cons letter letters ih =>
    cases text with
    | nil => cases h
    | cons c text =>
      obtain ⟨hc, ht⟩ := Bool.and_eq_true_iff.1 h
      refine List.forall_mem_cons.2 ⟨⟨letter, List.mem_cons_self, hc⟩, fun d hd => ?_⟩
      obtain ⟨e, he, hs⟩ := ih ht d hd
      exact ⟨e, List.mem_cons_of_mem _ he, hs⟩

theorem spells_append_iff (first more : String)
    (hl : letters.toList = first.toList ++ more.toList) :
    spells letters text ↔ ∃ xs ys, text = xs ++ ys ∧ spells first xs ∧ spells more ys := by
  simp only [spells_iff_map, hl, List.map_append]
  constructor
  · intro h
    obtain ⟨xs, ys, rfl, hx, hy⟩ := List.map_eq_append_iff.1 h.symm
    exact ⟨xs, ys, rfl, hx.symm, hy.symm⟩
  · rintro ⟨xs, ys, rfl, hx, hy⟩
    rw [hx, hy, List.map_append]

theorem spells_underscore_iff : spells "_" text ↔ text = ['_'] := by
  refine ⟨fun h => ?_, fun h => h ▸ spells_self "_"⟩
  obtain ⟨c, rfl⟩ := List.length_eq_one_iff.1 (length_of_spells h)
  have hc : foldLetter c = foldLetter '_' := (List.cons.inj (spells_iff_map.1 h).symm).1
  have hmark : foldLetter '_' = '_' := by decide
  rw [hmark] at hc
  unfold foldLetter at hc
  split at hc
  · cases hc
  split at hc
  · cases hc
  split at hc
  · cases hc
  rcases Text.toLower_eq_or c with h | ⟨hl, hu, h⟩
  · rw [← h, hc]
  · rw [hc] at h
    have hn : '_'.toNat = 95 := rfl
    omega

def isKeyword (letters : String) : Bool :=
  letters.toList ≠ [] && letters.toList.all isPlain

theorem ne_nil_of_isKeyword (hk : isKeyword letters) : letters.toList ≠ [] := by
  simpa using (Bool.and_eq_true_iff.1 hk).1

theorem all_isPlain_of_isKeyword (hk : isKeyword letters) : letters.toList.all isPlain :=
  (Bool.and_eq_true_iff.1 hk).2

theorem isWord_of_spells (hk : isKeyword letters) (h : spells letters text) :
    ∀ c ∈ text, isWord c := by
  intro c hc
  obtain ⟨letter, hl, hs⟩ := exists_letter h c hc
  exact Text.isWord_of_sameLetter (List.all_eq_true.1 (all_isPlain_of_isKeyword hk) letter hl) hs

theorem ne_nil_of_spells (hk : isKeyword letters) (h : spells letters text) : text ≠ [] := by
  have hlength := length_of_spells h
  have hpos := List.length_pos_iff.2 (ne_nil_of_isKeyword hk)
  exact List.length_pos_iff.1 (by omega)

theorem takes_spelled (h : spells letters text) (rest : List Char) :
    (word letters).Takes text rest [] := by
  refine takes_of_leads fun s hs => ?_
  unfold spells at h
  unfold word
  generalize letters.toList = cs at h
  induction cs generalizing s text with
  | nil =>
    obtain rfl : text = [] := by
      simpa [List.isEqv] using List.map_eq_nil_iff.1 (isEqv_iff_map.1 h).symm
    rw [Spot.past_nil (by simpa using hs)]
    exact leads_empty s
  | cons letter cs ih =>
    cases text with
    | nil => cases h
    | cons c text =>
      obtain ⟨hc, ht⟩ := Bool.and_eq_true_iff.1 h
      have ho : (one (sameLetter letter)).Leads s (s.past [c] (text ++ rest)) := leads_one hs hc
      have hw := ih (s.past [c] (text ++ rest)) rfl ht
      rw [Spot.past_past] at hw
      exact ho.append hw

theorem spells_of_meets {s t : Spot} (h : (word letters).Meets s t) :
    ∃ taken, s.Spans taken t ∧ spells letters taken := by
  unfold word at h
  unfold spells
  generalize letters.toList = cs at h
  induction cs generalizing s with
  | nil =>
    obtain rfl := h
    exact ⟨[], Spot.Spans.refl _, rfl⟩
  | cons letter cs ih =>
    obtain ⟨_, ⟨c, rest, hr, hc, rfl⟩, ht⟩ := h
    obtain ⟨taken, hsp, hs⟩ := ih ht
    exact ⟨c :: taken, (Spot.spans_after hr).trans hsp, by simp [List.isEqv, hc, hs]⟩

theorem departs_congr {cs xs ys : List Char} (h : xs.map foldLetter = ys.map foldLetter) :
    departs cs xs = departs cs ys := by
  induction cs generalizing xs ys with
  | nil => rfl
  | cons c cs ih =>
    cases xs with
    | nil =>
      obtain rfl : ys = [] := List.map_eq_nil_iff.1 h.symm
      rfl
    | cons x xs =>
      cases ys with
      | nil => cases h
      | cons y ys =>
        obtain ⟨hfirst, hrest⟩ := List.cons.inj h
        rw [departs, departs, ih hrest, sameLetter, sameLetter, hfirst]

theorem failsOn_spelled {own : String} (h : spells own text)
    (hd : departs letters.toList own.toList) (rest : List Char) :
    (word letters).FailsOn (text ++ rest) := by
  have hfails : (word letters ++ empty).FailsOn (text ++ rest) :=
    failsOn_word_of_departs (departs_congr (spells_iff_map.1 h) ▸ hd)
  exact hfails

end Spelling

section Holding

variable {letters : String} {text xs ys : List Char}

def opensWith (letters : String) (text : List Char) : Bool :=
  spells letters (text.take letters.toList.length)

/-- The letters stand somewhere in the text, in any case. -/
def holds (letters : String) : List Char → Bool
  | [] => false
  | c :: text => opensWith letters (c :: text) || holds letters text

def Parted (xs ys : List Char) : Prop :=
  xs.getLast?.any isWord = false ∨ Stops isWord ys

theorem opensWith_append_of_spells {word : List Char} (h : spells letters word) (rest : List Char) :
    opensWith letters (word ++ rest) := by
  rw [opensWith, ← length_of_spells h, List.take_left]
  exact h

theorem fails_word {s : Spot} (h : opensWith letters s.rest = false) : (word letters).Fails s := by
  refine fails_of_forall_not_meets fun t ht => ?_
  obtain ⟨taken, hsp, hs⟩ := spells_of_meets ht
  rw [hsp.rest, opensWith_append_of_spells hs] at h
  cases h

theorem opensWith_append (hk : isKeyword letters) (hne : xs ≠ []) (hp : Parted xs ys) :
    opensWith letters (xs ++ ys) = opensWith letters xs := by
  unfold opensWith
  by_cases hle : letters.toList.length ≤ xs.length
  · rw [List.take_append_of_le_length hle]
  have hshort : spells letters (xs.take letters.toList.length) = false := by
    refine Bool.eq_false_iff.2 fun h => hle ?_
    have := length_of_spells h
    rw [List.length_take] at this
    omega
  rw [hshort]
  -- A word that is longer than the first text goes on into the second one.
  refine Bool.eq_false_iff.2 fun h => ?_
  have hlength := length_of_spells h
  have hword := isWord_of_spells hk h
  rw [List.take_append, List.take_of_length_le (by omega)] at hlength hword
  rcases hp with hp | hp
  · rw [List.getLast?_eq_some_getLast hne, Option.any_some,
      hword _ (List.mem_append_left _ (List.getLast_mem hne))] at hp
    cases hp
  · cases ys with
    | nil =>
      simp only [List.take_nil, List.append_nil] at hlength
      omega
    | cons c ys =>
      obtain ⟨n, hn⟩ : ∃ n, letters.toList.length - xs.length = n + 1 :=
        ⟨letters.toList.length - xs.length - 1, by omega⟩
      rw [hn, List.take_succ_cons] at hword
      have hc := hword c (by simp)
      rw [stops_cons.1 hp] at hc
      cases hc

theorem Parted.tail {c : Char} (h : Parted (c :: xs) ys) : Parted xs ys := by
  refine h.imp_left fun h => ?_
  cases xs with
  | nil => rfl
  | cons d xs => rwa [List.getLast?_cons_cons] at h

theorem holds_append (hk : isKeyword letters) (hp : Parted xs ys) :
    holds letters (xs ++ ys) = (holds letters xs || holds letters ys) := by
  induction xs with
  | nil => rfl
  | cons c xs ih =>
    rw [List.cons_append, holds, holds, ih hp.tail, ← List.cons_append,
      opensWith_append hk (List.cons_ne_nil c xs) hp, Bool.or_assoc]

theorem holds_of_opensWith (hne : text ≠ []) (h : opensWith letters text) : holds letters text := by
  cases text with
  | nil => exact absurd rfl hne
  | cons c text => rw [holds, h, Bool.true_or]

theorem holds_of_append (h : holds letters ys) (xs : List Char) : holds letters (xs ++ ys) := by
  induction xs with
  | nil => exact h
  | cons c xs ih => rw [List.cons_append, holds, ih, Bool.or_true]

theorem exists_of_holds (h : holds letters text) :
    ∃ front word back, text = front ++ (word ++ back) ∧ spells letters word := by
  induction text with
  | nil => cases h
  | cons c text ih =>
    rcases Bool.or_eq_true_iff.1 h with h | h
    · exact ⟨[], _, _, (List.take_append_drop letters.toList.length (c :: text)).symm, h⟩
    · obtain ⟨front, word, back, rfl, hs⟩ := ih h
      exact ⟨c :: front, word, back, rfl, hs⟩

theorem holds_eq_false (hk : isKeyword letters) (h : ∀ c ∈ text, isWord c = false) :
    holds letters text = false := by
  refine Bool.eq_false_iff.2 fun hh => ?_
  obtain ⟨front, word, back, rfl, hs⟩ := exists_of_holds hh
  obtain ⟨c, word, rfl⟩ := List.exists_cons_of_ne_nil (ne_nil_of_spells hk hs)
  have hc := isWord_of_spells hk hs c List.mem_cons_self
  rw [h c (by simp)] at hc
  cases hc

theorem holds_congr (h : xs.map foldLetter = ys.map foldLetter) :
    holds letters xs = holds letters ys := by
  have hopens {us vs : List Char} (h : us.map foldLetter = vs.map foldLetter) :
      opensWith letters us = opensWith letters vs := by
    rw [Bool.eq_iff_iff, opensWith, opensWith, spells_iff_map, spells_iff_map, List.map_take, h,
      List.map_take]
  induction xs generalizing ys with
  | nil =>
    obtain rfl : ys = [] := List.map_eq_nil_iff.1 h.symm
    rfl
  | cons c xs ih =>
    cases ys with
    | nil => cases h
    | cons d ys => rw [holds, holds, hopens h, ih (List.cons.inj h).2]

end Holding

section Leading

variable {p q r : Pattern} {openings : List String} {xs rest : List Char}

structure LedBy (openings : List String) (p : Pattern) : Prop where
  keywords : openings.all isKeyword
  fails : ∀ s : Spot, (∀ letters ∈ openings, (word letters).Fails s) → p.Fails s

theorem ledBy_word {letters : String} (hk : isKeyword letters) : LedBy [letters] (word letters) :=
  ⟨by simpa using hk, fun _ h => h letters List.mem_cons_self⟩

theorem LedBy.append (h : LedBy openings p) (q : Pattern) : LedBy openings (p ++ q) :=
  ⟨h.keywords, fun s hs => (h.fails s hs).append q⟩

theorem LedBy.wordEdge_append (h : LedBy openings p) : LedBy openings (wordEdge ++ p) := by
  refine ⟨h.keywords, fun s hs => fails_append fun t ht => ?_⟩
  obtain ⟨_, rfl⟩ := ht
  exact h.fails _ hs

theorem LedBy.orElse {others : List String} (h : LedBy openings p) (k : LedBy others q) :
    LedBy (openings ++ others) (p <|> q) := by
  refine ⟨by rw [List.all_append, h.keywords, k.keywords]; rfl, fun s hs => ?_⟩
  exact (h.fails s fun letters hl => hs letters (List.mem_append_left _ hl)).orElse
    (k.fails s fun letters hl => hs letters (List.mem_append_right _ hl))

theorem Agrees.ledBy (h : p.Agrees q) (k : LedBy openings q) : LedBy openings p := by
  refine ⟨k.keywords, fun s hs β goOn => ?_⟩
  rw [h]
  exact k.fails s hs goOn

theorem LedBy.silent (h : LedBy openings p) (hn : ∀ letters ∈ openings, holds letters xs = false)
    (hp : Parted xs rest) : p.Silent xs rest := by
  intro s _ ys zs he hz
  refine h.fails _ fun letters hl => fails_word ?_
  have hk := List.all_eq_true.1 h.keywords letters hl
  have hparted : Parted zs rest := by
    rwa [Parted, ← List.getLast?_append_of_ne_nil ys hz, ← he]
  show opensWith letters (zs ++ rest) = false
  rw [opensWith_append hk hz hparted]
  refine Bool.eq_false_iff.2 fun ho => ?_
  have hin := holds_of_append (holds_of_opensWith hz ho) ys
  rw [← he, hn letters hl] at hin
  cases hin

theorem LedBy.silent_of_not_isWord (h : LedBy openings p) (hn : ∀ c ∈ xs, isWord c = false)
    (rest : List Char) : p.Silent xs rest := by
  refine h.silent (fun letters hl => ?_) (.inl ?_)
  · exact holds_eq_false (List.all_eq_true.1 h.keywords letters hl) hn
  · cases hx : xs.getLast? with
    | none => rfl
    | some c => exact hn c (List.mem_of_getLast? hx)

theorem LedBy.failsOn_of_stops (h : LedBy openings p) (hs : Stops isWord rest) :
    p.FailsOn rest := by
  intro s hr
  refine h.fails s fun letters hl => fails_of_forall_not_meets fun t ht => ?_
  have hk := List.all_eq_true.1 h.keywords letters hl
  obtain ⟨taken, hsp, hspells⟩ := spells_of_meets ht
  obtain ⟨c, word, rfl⟩ := List.exists_cons_of_ne_nil (ne_nil_of_spells hk hspells)
  have hc := isWord_of_spells hk hspells c List.mem_cons_self
  have hrest : rest = c :: (word ++ t.rest) := hr.symm.trans hsp.rest
  rw [hrest] at hs
  rw [stops_cons.1 hs] at hc
  cases hc

end Leading

section FirstMatch

variable {p q : Pattern} {s : Spot} {xs taken rest : List Char} {texts : List (String × List Char)}

theorem Silent.textsFrom_eq (h : p.Silent xs rest) (hs : s.rest = xs ++ rest) :
    p.textsFrom s = p.textsFrom (s.past xs rest) :=
  textsFrom_past hs (h s hs)

theorem textsFrom_of_leads {t : Spot} (h : p.Leads s t) : p.textsFrom s = some t.texts := by
  have hl := h (fun u => some u.texts) t.texts rfl
  cases hr : s.rest with
  | nil =>
    obtain ⟨offset, before, _, captures⟩ := s
    obtain rfl := hr
    show List.findSome? _ [_] = _
    rw [List.findSome?_cons, hl]
  | cons c rest =>
    rw [textsFrom_cons hr, hl]
    rfl

theorem textsFrom_of_nil (hs : s.rest = []) (h : p.FailsOn []) : p.textsFrom s = none := by
  obtain ⟨offset, before, _, captures⟩ := s
  obtain rfl := hs
  show List.findSome? _ [_] = _
  rw [List.findSome?_cons, h _ rfl]
  rfl

theorem Agrees.textsFrom_eq (h : p.Agrees q) (s : Spot) : p.textsFrom s = q.textsFrom s := by
  unfold textsFrom
  congr 1
  funext t
  exact h _ t

theorem Takes.leads_wordEdge_append (h : p.Takes taken rest texts)
    (hw : taken.head?.any isWord) (hb : s.before.any isWord = false)
    (hs : s.rest = taken ++ rest) :
    ∃ t, (wordEdge ++ p).Leads s t ∧ t.texts = texts ++ s.texts := by
  obtain ⟨t, ht, _, _, hx⟩ := h s hs
  have hedge : s.atWordEdge := by
    cases taken with
    | nil => cases hw
    | cons c taken =>
      have hc : isWord c := by simpa using hw
      simp [Spot.atWordEdge, hb, hs, hc]
  exact ⟨t, (leads_wordEdge hedge).append ht, hx⟩

end FirstMatch

end SchemaText.Pattern
