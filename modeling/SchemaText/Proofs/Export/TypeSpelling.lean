import Mathlib.Data.List.Induction
import SchemaText.Export.TypeName
import SchemaText.Proofs.Text.Letter
import SchemaText.Proofs.Text.Trim
import SchemaText.Proofs.Text.Words
/-! The ways to write the known name of a type: in any case, and with any number of spaces between
its words. -/

namespace SchemaText.Export.TypeName

open Diagram (isPlain)
open Text (isBlank isWord Firm Parts words)

inductive Spells : List Char → List Char → Prop where
  | nil : Spells [] []
  | letter {c d : Char} {written name : List Char} (hc : c.toLower = d) (hd : d ≠ ' ')
    (h : Spells written name) : Spells (c :: written) (d :: name)
  | spaces (n : Nat) {written name : List Char} (h : Spells written name) :
    Spells (List.replicate (n + 1) ' ' ++ written) (' ' :: name)

/-- A letter or an underscore, and then characters of words and spaces. -/
structure IsName (name : List Char) : Prop where
  head : ∃ c rest, name = c :: rest ∧ (Text.isLatinLetter c || c == '_')
  all : ∀ c ∈ name, isWord c || c == ' '

def isKnownChar (c : Char) : Bool :=
  c.isLower && c != 'k' || c.isDigit || c == ' '

section Spelled

variable {written name : List Char}

theorem words_replicate_append (n : Nat) (cs : List Char) :
    words (List.replicate n ' ' ++ cs) = words cs := by
  induction n with
  | zero => rfl
  | succ n ih =>
    rw [List.replicate_succ, List.cons_append, Text.words_cons_of_isBlank Text.isBlank_space, ih]

theorem words_append_replicate (cs : List Char) (n : Nat) :
    words (cs ++ List.replicate n ' ') = words cs := by
  have hspaces : words (List.replicate n ' ') = [] := by
    have happend := words_replicate_append n []
    rwa [List.append_nil] at happend
  induction cs with
  | nil => exact hspaces
  | cons c cs ih =>
    refine Text.words_cons_congr c ih ?_
    cases cs with
    | nil => cases n <;> simp [Parts, List.replicate_succ, Text.isBlank_space]
    | cons d cs => simp [Parts]

theorem Spells.words_eq (h : Spells written name) :
    words (written.map Char.toLower) = words name := by
  suffices hboth : words (written.map Char.toLower) = words name ∧
      (Parts (written.map Char.toLower) ↔ Parts name) from hboth.1
  induction h with
  | nil => exact ⟨rfl, Iff.rfl⟩
  | @letter c d _ _ hc _ _ ih =>
    rw [List.map_cons, hc]
    refine ⟨Text.words_cons_congr d ih.1 ih.2, by simp [Parts]⟩
  | spaces n _ ih =>
    rw [List.map_append, List.map_replicate]
    refine ⟨?_, by simp [Parts, List.replicate_succ, Text.isBlank_space]⟩
    exact (words_replicate_append (n + 1) _).trans
      (ih.1.trans (Text.words_cons_of_isBlank Text.isBlank_space _).symm)

theorem Spells.exists_of_space (h : Spells written (' ' :: name)) :
    ∃ n rest, written = List.replicate (n + 1) ' ' ++ rest ∧ Spells rest name := by
  cases h with
  | letter hc hd h => exact absurd rfl hd
  | spaces n h => exact ⟨n, _, rfl, h⟩

end Spelled

def spacedWords (text : List Char) : List Char :=
  (if text.head?.any isBlank then [' '] else []) ++
    [' '].intercalate (words (text.map Char.toLower))

section Spacing

variable {c d : Char} {cs : List Char}

theorem words_lower_cons (c : Char) (cs : List Char) :
    words ((c :: cs).map Char.toLower) = words (c.toLower :: cs.map Char.toLower) := rfl

theorem spacedWords_cons_of_isBlank (h : isBlank c) (cs : List Char) :
    spacedWords (c :: cs) = ' ' :: [' '].intercalate (words (cs.map Char.toLower)) := by
  rw [spacedWords, words_lower_cons, Text.words_cons_of_isBlank (by rwa [Text.isBlank_toLower])]
  simp [h]

theorem spacedWords_cons_of_not (h : isBlank c = false) (cs : List Char) :
    spacedWords (c :: cs) = [' '].intercalate (words ((c :: cs).map Char.toLower)) := by
  simp [spacedWords, h]

theorem spacedWords_cons_cons (h : isBlank c = false)
    (hw : words ((d :: cs).map Char.toLower) ≠ []) :
    spacedWords (c :: d :: cs) = c.toLower :: spacedWords (d :: cs) := by
  have hlower : isBlank c.toLower = false := by rw [Text.isBlank_toLower, h]
  obtain ⟨first, others, hs⟩ := List.exists_cons_of_ne_nil hw
  rw [spacedWords_cons_of_not h, List.map_cons]
  cases hd : isBlank d with
  | true =>
    have hparts : Parts ((d :: cs).map Char.toLower) := by simp [Parts, Text.isBlank_toLower, hd]
    rw [Text.words_cons_of_parts hlower hparts, spacedWords, hs]
    simp [hd, Text.intercalate_cons]
  | false =>
    have hd' : isBlank d.toLower = false := by rw [Text.isBlank_toLower, hd]
    rw [List.map_cons, Text.words_cons_cons hlower hd', ← List.map_cons, hs,
      spacedWords_cons_of_not hd, hs]
    simp [Text.intercalate_cons]

theorem toLower_ne_space (h : isBlank c = false) : c.toLower ≠ ' ' := by
  intro he
  rw [← Text.isBlank_toLower, he] at h
  cases h

theorem words_lower_ne_nil (hl : ∀ e ∈ (d :: cs).getLast?, isBlank e = false) :
    words ((d :: cs).map Char.toLower) ≠ [] := by
  obtain ⟨e, he⟩ : ∃ e, (d :: cs).getLast? = some e :=
    ⟨_, List.getLast?_eq_some_getLast (List.cons_ne_nil _ _)⟩
  obtain ⟨word, hm, _⟩ := Text.exists_mem_words
    (List.mem_map_of_mem (f := Char.toLower) (List.mem_of_getLast? he))
    (by rw [Text.isBlank_toLower, hl e he])
  exact List.ne_nil_of_mem hm

theorem spells_space_cons (h : Spells (d :: cs) (spacedWords (d :: cs))) :
    Spells (' ' :: d :: cs) (spacedWords (' ' :: d :: cs)) := by
  rw [spacedWords_cons_of_isBlank Text.isBlank_space]
  cases hd : isBlank d with
  | false =>
    rw [spacedWords_cons_of_not hd] at h
    exact .spaces 0 h
  | true =>
    rw [spacedWords_cons_of_isBlank hd] at h
    obtain ⟨n, rest, he, hs⟩ := h.exists_of_space
    have hw : words ((d :: cs).map Char.toLower) = words (cs.map Char.toLower) :=
      Text.words_cons_of_isBlank (by rwa [Text.isBlank_toLower]) _
    rw [hw, he]
    exact .spaces (n + 1) hs

theorem spells_spacedWords {text : List Char} (hb : ∀ c ∈ text, isBlank c → c = ' ')
    (hl : ∀ c ∈ text.getLast?, isBlank c = false) : Spells text (spacedWords text) := by
  induction text with
  | nil => exact .nil
  | cons c cs ih =>
    cases cs with
    | nil =>
      have hc : isBlank c = false := hl c rfl
      have hw : words [c.toLower] = [[c.toLower]] :=
        Text.words_cons_of_parts (by rw [Text.isBlank_toLower, hc]) (Text.stops_nil _)
      rw [spacedWords_cons_of_not hc, words_lower_cons, List.map_nil, hw]
      exact .letter rfl (toLower_ne_space hc) .nil
    | cons d cs =>
      have hlast : ∀ e ∈ (d :: cs).getLast?, isBlank e = false := by
        rwa [List.getLast?_cons_cons] at hl
      have hrest := ih (fun e he => hb e (List.mem_cons_of_mem _ he)) hlast
      cases hc : isBlank c with
      | false =>
        rw [spacedWords_cons_cons hc (words_lower_ne_nil hlast)]
        exact .letter rfl (toLower_ne_space hc) hrest
      | true =>
        obtain rfl := hb c List.mem_cons_self hc
        exact spells_space_cons hrest

end Spacing

section Names

variable {written name : List Char} {c : Char}

theorem IsName.eq_space (h : IsName name) : ∀ c ∈ name, isBlank c → c = ' ' := by
  intro c hc hb
  rcases Bool.or_eq_true_iff.1 (h.all c hc) with hw | hs
  · rw [Text.isBlank_eq_false_of_isWord hw] at hb
    cases hb
  · exact beq_iff_eq.1 hs

theorem IsName.head_isBlank (h : IsName name) : ∃ c, name.head? = some c ∧ isBlank c = false := by
  obtain ⟨c, rest, rfl, hc⟩ := h.head
  refine ⟨c, rfl, ?_⟩
  rcases Bool.or_eq_true_iff.1 hc with hl | hu
  · exact Text.isBlank_eq_false_of_isWord (Text.isWord_of_isLatinLetter hl)
  · rw [beq_iff_eq.1 hu]
    decide

theorem IsName.exists_firm (h : IsName name) :
    ∃ core n, name = core ++ List.replicate n ' ' ∧ Firm core := by
  induction name using List.reverseRecOn with
  | nil =>
    obtain ⟨_, _, hnil, _⟩ := h.head
    cases hnil
  | append_singleton front c ih =>
    by_cases hc : c = ' '
    · have hfront : IsName front := by
        obtain ⟨d, rest, hd, hl⟩ := h.head
        refine ⟨?_, fun e he => h.all e (List.mem_append_left _ he)⟩
        cases front with
        | nil =>
          obtain ⟨rfl, _⟩ := List.cons.inj hd
          rw [hc] at hl
          cases hl
        | cons e front =>
          obtain ⟨rfl, _⟩ := List.cons.inj hd
          exact ⟨e, front, rfl, hl⟩
      obtain ⟨core, n, rfl, hcore⟩ := ih hfront
      refine ⟨core, n + 1, ?_, hcore⟩
      rw [hc, List.append_assoc, ← List.replicate_succ']
    · have hblank : isBlank c = false :=
        Bool.eq_false_iff.2 fun hb => hc (h.eq_space c (by simp) hb)
      exact ⟨front ++ [c], 0, by simp, h.head_isBlank, c, by simp, hblank⟩

def isKnownName (name : List Char) : Bool :=
  name.all isKnownChar && name.head?.any Char.isLower && name.getLast?.any (· != ' ') &&
    [' '].intercalate (words name) == name

theorem isKnownName_of_maker {key : String} {make : List Nat → DataType}
    (h : maker? key = some make) : isKnownName key.toList := by
  have hall : makers.all fun entry => isKnownName entry.1.toList := by
    decide +kernel
  obtain ⟨front, back, hmakers, _⟩ := List.lookup_eq_some_iff.1 h
  exact List.all_eq_true.1 hall (key, make) (by rw [hmakers]; simp)

theorem isPlain_of_isKnownChar (h : isKnownChar c) (k : c ≠ ' ') : isPlain c := by
  unfold isKnownChar at h
  unfold isPlain
  delta Char.isAlphanum Char.isAlpha
  simp only [Bool.or_eq_true, Bool.and_eq_true, beq_iff_eq] at h ⊢
  rcases h with (⟨hl, _⟩ | hd) | hs
  · exact .inl (.inl (.inr hl))
  · exact .inl (.inr hd)
  · exact absurd hs k

theorem Spells.eq_space_or (h : Spells written name) (hc : c ∈ written) :
    c = ' ' ∨ c.toLower ∈ name := by
  induction h with
  | nil => cases hc
  | letter he hd _ ih =>
    rcases List.mem_cons.1 hc with rfl | hc
    · exact .inr (he ▸ List.mem_cons_self)
    · exact (ih hc).imp_right (List.mem_cons_of_mem _)
  | spaces n _ ih =>
    rcases List.mem_append.1 hc with hc | hc
    · exact .inl (List.eq_of_mem_replicate hc)
    · exact (ih hc).imp_right (List.mem_cons_of_mem _)

theorem Spells.getLast? {d : Char} (h : Spells written name) (hd : name.getLast? = some d)
    (hs : d ≠ ' ') : ∃ c, written.getLast? = some c ∧ c.toLower = d := by
  induction h with
  | nil => cases hd
  | @letter c e written name he _ h ih =>
    cases name with
    | nil =>
      cases h
      exact ⟨c, rfl, he.trans (Option.some.inj hd)⟩
    | cons f name =>
      obtain ⟨g, hg, hl⟩ := ih (by rwa [List.getLast?_cons_cons] at hd)
      exact ⟨g, by rw [List.getLast?_cons, hg]; rfl, hl⟩
  | @spaces n written name h ih =>
    cases name with
    | nil => exact absurd (Option.some.inj hd).symm hs
    | cons f name =>
      obtain ⟨g, hg, hl⟩ := ih (by rwa [List.getLast?_cons_cons] at hd)
      exact ⟨g, by rw [List.getLast?_append, hg]; rfl, hl⟩

theorem eq_space_of_toLower (h : c.toLower = ' ') : c = ' ' := by
  rcases Text.toLower_eq_or c with hc | ⟨hl, _, hc⟩
  · rwa [hc] at h
  · rw [h] at hc
    have hspace : ' '.toNat = 32 := rfl
    omega

theorem Spells.eq_space_or_isPlain (h : Spells written name) (k : isKnownName name)
    (hc : c ∈ written) : c = ' ' ∨ isPlain c := by
  simp only [isKnownName, Bool.and_eq_true] at k
  rcases h.eq_space_or hc with hs | hm
  · exact .inl hs
  · by_cases hs : c.toLower = ' '
    · exact .inl (eq_space_of_toLower hs)
    · exact .inr (Text.isPlain_toLower.1
        (isPlain_of_isKnownChar (List.all_eq_true.1 k.1.1.1 _ hm) hs))

theorem Spells.toNat_lt (h : Spells written name) (k : isKnownName name) :
    ∀ c ∈ written, c.toNat < 128 := by
  intro c hc
  rcases h.eq_space_or_isPlain k hc with rfl | hp
  · decide
  · have hn := Diagram.toNat_of_isPlain hp
    omega

theorem isLatinLetter_of_toLower (h : c.toLower.isLower) : Text.isLatinLetter c := by
  have halpha : c.toLower.isAlpha := Bool.or_eq_true_iff.2 (.inr h)
  have hplain : isPlain c := Text.isPlain_toLower.1 (by simp [isPlain, Char.isAlphanum, halpha])
  have hn := Diagram.toNat_of_isPlain hplain
  unfold Text.isLatinLetter Text.foldLetter
  simp only [beq_iff_eq, Bool.or_eq_true]
  rwa [if_neg (by omega), if_neg (by omega), if_neg (by omega)]

theorem Spells.isName (h : Spells written name) (k : isKnownName name) : IsName written := by
  refine ⟨?_, fun c hc => ?_⟩
  · simp only [isKnownName, Bool.and_eq_true] at k
    have hhead := k.1.1.2
    cases h with
    | nil => cases hhead
    | letter hc _ _ =>
      refine ⟨_, _, rfl, Bool.or_eq_true_iff.2 (.inl (isLatinLetter_of_toLower ?_))⟩
      rw [hc]
      simpa using hhead
    | spaces _ _ =>
      have hspace : ' '.isLower = false := rfl
      simp [hspace] at hhead
  · rcases h.eq_space_or_isPlain k hc with rfl | hp
    · rfl
    · rw [Text.isWord_of_isPlain hp]
      rfl

theorem Spells.firm (h : Spells written name) (k : isKnownName name) : Firm written := by
  refine ⟨(h.isName k).head_isBlank, ?_⟩
  have hall {c : Char} := h.eq_space_or_isPlain k (c := c)
  simp only [isKnownName, Bool.and_eq_true] at k
  obtain ⟨d, hd, hs⟩ := (Option.any_eq_true _ _).1 k.1.2
  have hspace : d ≠ ' ' := by simpa using hs
  obtain ⟨c, hc, hl⟩ := h.getLast? hd hspace
  refine ⟨c, hc, ?_⟩
  rcases hall (List.mem_of_getLast? hc) with rfl | hp
  · exact absurd hl.symm hspace
  · exact Diagram.isBlank_eq_false_of_isPlain hp

theorem Spells.normalise (h : Spells written name) (k : isKnownName name) (n : Nat) :
    normalise (written ++ List.replicate n ' ') = String.ofList name := by
  have hascii : ∀ c ∈ written ++ List.replicate n ' ', c.toNat < 128 := by
    intro c hc
    rcases List.mem_append.1 hc with hc | hc
    · exact h.toNat_lt k c hc
    · rw [List.eq_of_mem_replicate hc]
      decide
  unfold TypeName.normalise
  rw [Text.lower_of_ascii hascii, List.map_append, List.map_replicate]
  have hlower : ' '.toLower = ' ' := rfl
  simp only [isKnownName, Bool.and_eq_true, beq_iff_eq] at k
  rw [hlower, words_append_replicate, h.words_eq, k.2]

theorem IsName.exists_spells (h : IsName name) {make : List Nat → DataType}
    (k : maker? (TypeName.normalise name) = some make) :
    ∃ core n, name = core ++ List.replicate n ' ' ∧
      Spells core (TypeName.normalise name).toList := by
  have hknown := isKnownName_of_maker k
  -- A letter outside ASCII would leave a trace that no known name has.
  have hascii : ∀ c ∈ name, c.toNat < 128 := by
    intro c hc
    by_contra hn
    have hblank : isBlank c = false := Bool.eq_false_iff.2 fun hb => by
      rw [h.eq_space c hc hb] at hn
      exact hn (by decide)
    obtain ⟨d, hd, hb, hforeign⟩ := Text.exists_mem_lower hc (by omega) hblank
    obtain ⟨word, hw, hdw⟩ := Text.exists_mem_words hd hb
    have hmem : d ∈ (TypeName.normalise name).toList := by
      rw [TypeName.normalise, String.toList_ofList]
      exact Text.mem_intercalate_of_mem hw hdw
    simp only [isKnownName, Bool.and_eq_true] at hknown
    have hchar := List.all_eq_true.1 hknown.1.1.1 d hmem
    rcases hforeign with rfl | hplain
    · cases hchar
    · refine absurd (isPlain_of_isKnownChar hchar ?_) (by simp [hplain])
      rintro rfl
      cases hb
  obtain ⟨core, n, rfl, hcore⟩ := h.exists_firm
  refine ⟨core, n, rfl, ?_⟩
  have hkey : (TypeName.normalise (core ++ List.replicate n ' ')).toList = spacedWords core := by
    obtain ⟨c, hc, hb⟩ := hcore.head
    have hlower : ' '.toLower = ' ' := rfl
    rw [TypeName.normalise, String.toList_ofList, Text.lower_of_ascii hascii, List.map_append,
      List.map_replicate, hlower, words_append_replicate, spacedWords]
    simp [hc, hb]
  rw [hkey]
  refine spells_spacedWords (fun c hc => h.eq_space c (List.mem_append_left _ hc)) ?_
  obtain ⟨c, hc, hb⟩ := hcore.last
  intro d hd
  obtain rfl : c = d := Option.some.inj (hc.symm.trans hd)
  exact hb

end Names

end SchemaText.Export.TypeName
