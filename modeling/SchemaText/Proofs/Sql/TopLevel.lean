import SchemaText.Proofs.Sql.Balanced
import SchemaText.Proofs.Sql.ClauseText
import SchemaText.Proofs.Sql.ReportPlace
/-! A text cut at its commas at top level: the clauses stand where the text has them, they end at
exactly these commas, nothing but a blank end is lost, and none of them can be cut again. -/

namespace SchemaText.Sql.Clause

open Text (located)

def IsTopComma (text : List Char) (place : Nat) : Prop :=
  text[place]? = some ',' ∧ EndsAtTop (text.take place)

/-- The place behind a clause. -/
def stop (clause : Clause) : Nat :=
  clause.offset + clause.text.length

def joined (clauses : List Clause) : List Char :=
  [','].intercalate (clauses.map Clause.text)

/-- What makes clauses the cutting of a text at its commas at top level. Only a blank remainder
behind the last of these commas is dropped, and the comma with it. -/
structure IsCutting (source : List Char) (clauses : List Clause) : Prop where
  slice : ∀ clause ∈ clauses, (source.drop clause.offset).take clause.text.length = clause.text
  first : ∀ clause ∈ clauses.head?, clause.offset = 0
  next : clauses.IsChain fun a b => b.offset = a.stop + 1
  commas : ∀ place < source.length,
    IsTopComma source place ↔ ∃ clause ∈ clauses, clause.stop = place
  blank : clauses = [] ↔ Text.trim source = []
  whole : clauses ≠ [] →
    (∃ last, (clauses.map Clause.text).getLast? = some last ∧ Text.trim last ≠ [] ∧
      joined clauses = source) ∨
      ∃ remainder, Text.trim remainder = [] ∧ source = joined clauses ++ ',' :: remainder
  single : ∀ clause ∈ clauses, Text.trim clause.text ≠ [] → ofText clause.text = [⟨0, clause.text⟩]

section Nesting

variable {nesting : Nesting}

theorem cut_of_cut_eq_cons {text first : List Char} {others : List (List Char)}
    (h : cut nesting text = first :: others) :
    cut nesting first = [first] ∧ ∀ part ∈ others, cut {} part = [part] := by
  induction text generalizing nesting first others with
  | nil =>
    obtain ⟨rfl, rfl⟩ := List.cons.inj (show [[]] = first :: others from h)
    exact ⟨rfl, by simp⟩
  | cons c text ih =>
    by_cases hcut : c = ',' ∧ nesting.isTop
    · rw [cut, if_pos hcut] at h
      obtain ⟨rfl, rfl⟩ := List.cons.inj h
      obtain rfl := Nesting.eq_of_isTop hcut.2
      obtain ⟨next, more, hnext⟩ := List.exists_cons_of_ne_nil (cut_ne_nil {} text)
      obtain ⟨hfirst, hothers⟩ := ih hnext
      rw [hnext]
      refine ⟨rfl, fun part hp => ?_⟩
      rcases List.mem_cons.1 hp with rfl | hp
      · exact hfirst
      · exact hothers part hp
    · obtain ⟨next, more, hnext⟩ := List.exists_cons_of_ne_nil (cut_ne_nil (nesting.after c) text)
      rw [Core.cut_cons_of_not_top nesting hcut, hnext, List.modifyHead_cons] at h
      obtain ⟨rfl, rfl⟩ := List.cons.inj h
      obtain ⟨hfirst, hothers⟩ := ih hnext
      rw [Core.cut_cons_of_not_top nesting hcut, hfirst]
      exact ⟨rfl, hothers⟩

theorem cut_of_mem_cut {text part : List Char} (h : part ∈ cut {} text) : cut {} part = [part] := by
  obtain ⟨first, others, hcut⟩ := List.exists_cons_of_ne_nil (cut_ne_nil {} text)
  obtain ⟨hfirst, hothers⟩ := cut_of_cut_eq_cons hcut
  rw [hcut] at h
  rcases List.mem_cons.1 h with rfl | h
  · exact hfirst
  · exact hothers part h

end Nesting

section Places

def Nesting.TopComma (nesting : Nesting) (text : List Char) (place : Nat) : Prop :=
  text[place]? = some ',' ∧ (nesting.behind (text.take place)).isTop

def stops (offset : Nat) (parts : List (List Char)) : List Nat :=
  (located offset parts).map fun part => part.1 + part.2.length

theorem stops_cons (offset : Nat) (part : List Char) (parts : List (List Char)) :
    stops offset (part :: parts) =
      (offset + part.length) :: stops (offset + part.length + 1) parts := rfl

theorem stops_modifyHead_cons (offset : Nat) (c : Char) (parts : List (List Char)) :
    stops offset (parts.modifyHead (c :: ·)) = stops (offset + 1) parts := by
  cases parts with
  | nil => rfl
  | cons part parts =>
    have hlength : offset + (c :: part).length = offset + 1 + part.length := by
      rw [List.length_cons]
      omega
    rw [List.modifyHead_cons, stops_cons, stops_cons, hlength]

theorem le_of_mem_stops {offset place : Nat} {parts : List (List Char)}
    (h : place ∈ stops offset parts) : offset ≤ place := by
  obtain ⟨⟨start, part⟩, hp, rfl⟩ := List.mem_map.1 h
  exact Nat.le_add_right_of_le (Text.le_of_mem_located hp)

theorem topComma_iff {nesting : Nesting} {text : List Char} {place : Nat} (h : place < text.length)
    (offset : Nat) :
    nesting.TopComma text place ↔ offset + place ∈ stops offset (cut nesting text) := by
  -- The place is one of the text that is left to scan, the stops are places of the whole text.
  induction text generalizing nesting place offset with
  | nil => exact absurd h (Nat.not_lt_zero place)
  | cons c text ih =>
    have hbehind (place : Nat) : nesting.TopComma (c :: text) (place + 1) ↔
        (nesting.after c).TopComma text place := Iff.rfl
    have hfirst : nesting.TopComma (c :: text) 0 ↔ c = ',' ∧ nesting.isTop := by
      simp [Nesting.TopComma, Nesting.behind]
    by_cases hcut : c = ',' ∧ nesting.isTop
    · have hafter : nesting.after c = nesting := by
        rw [hcut.1, Nesting.eq_of_isTop hcut.2]
        rfl
      rw [cut, if_pos hcut, stops_cons, List.length_nil]
      cases place with
      | zero => exact iff_of_true (hfirst.2 hcut) List.mem_cons_self
      | succ place =>
        rw [hbehind, hafter, ih (Nat.lt_of_succ_lt_succ h) (offset + 1)]
        simp [Nat.add_right_comm, Nat.add_assoc]
    · rw [Core.cut_cons_of_not_top nesting hcut, stops_modifyHead_cons]
      cases place with
      | zero =>
        refine iff_of_false (fun k => hcut (hfirst.1 k)) fun k => ?_
        exact absurd (le_of_mem_stops k) (by omega)
      | succ place =>
        rw [hbehind, ih (Nat.lt_of_succ_lt_succ h) (offset + 1), Nat.add_right_comm, Nat.add_assoc]

end Places

section Clauses

def ofParts (parts : List (List Char)) : List Clause :=
  (located 0 parts).map fun part => ⟨part.1, part.2⟩

theorem located_concat (offset : Nat) (front : List (List Char)) (last : List Char) :
    ∃ start, located offset (front ++ [last]) = located offset front ++ [(start, last)] ∧
      start + last.length = offset + ([','].intercalate (front ++ [last])).length := by
  induction front generalizing offset with
  | nil => exact ⟨offset, rfl, by simp [List.intercalate]⟩
  | cons part front ih =>
    obtain ⟨start, hs, hstop⟩ := ih (offset + part.length + 1)
    refine ⟨start, congrArg ((offset, part) :: ·) hs, ?_⟩
    obtain ⟨next, more, hnext⟩ := List.exists_cons_of_ne_nil
      (List.append_ne_nil_of_right_ne_nil front (List.cons_ne_nil last []))
    rw [hnext] at hstop
    rw [List.cons_append, hnext, Text.intercalate_cons_cons, List.length_append, List.length_cons]
    omega

theorem map_text_ofParts (parts : List (List Char)) : (ofParts parts).map Clause.text = parts := by
  unfold ofParts
  rw [List.map_map]
  exact Text.map_snd_located 0 parts

theorem joined_ofParts (parts : List (List Char)) :
    joined (ofParts parts) = [','].intercalate parts := by
  rw [joined, map_text_ofParts]

theorem map_stop_ofParts (parts : List (List Char)) :
    (ofParts parts).map Clause.stop = stops 0 parts := by
  unfold ofParts
  rw [List.map_map]
  rfl

theorem isChain_located (offset : Nat) (parts : List (List Char)) :
    ((located offset parts).map fun part => (⟨part.1, part.2⟩ : Clause)).IsChain
      fun a b => b.offset = a.stop + 1 := by
  induction parts generalizing offset with
  | nil => exact .nil
  | cons part parts ih =>
    have hmore := ih (offset + part.length + 1)
    cases parts with
    | nil => exact .singleton _
    | cons next parts => exact .cons_cons rfl hmore

inductive Kept (parts : List (List Char)) : List (List Char) → Prop where
  | all {last : List Char} (h : parts.getLast? = some last) (k : Text.trim last ≠ []) :
    Kept parts parts
  | butLast {front : List (List Char)} {remainder : List Char} (h : parts = front ++ [remainder])
    (k : Text.trim remainder = []) : Kept parts front

theorem exists_kept_ofText (text : List Char) :
    ∃ front, ofText text = ofParts front ∧ Kept (cut {} text) front := by
  obtain ⟨front, last, hcut⟩ :=
    (List.eq_nil_or_concat (cut {} text)).resolve_left (cut_ne_nil {} text)
  rw [List.concat_eq_append] at hcut
  obtain ⟨start, hstart, _⟩ := located_concat 0 front last
  unfold ofText dropBlankEnd
  rw [hcut, hstart, List.getLast?_concat, List.dropLast_concat, Option.map_some]
  by_cases hblank : Text.trim last = []
  · refine ⟨front, ?_, .butLast rfl hblank⟩
    rw [if_pos (congrArg some hblank)]
    rfl
  · refine ⟨front ++ [last], ?_, .all List.getLast?_concat hblank⟩
    rw [if_neg fun h => hblank (Option.some.inj h), ofParts, hstart]

theorem ofText_of_cut {text : List Char} (h : cut {} text = [text]) (k : Text.trim text ≠ []) :
    ofText text = [⟨0, text⟩] := by
  unfold ofText dropBlankEnd
  rw [h]
  exact congrArg (List.map _) (if_neg fun hb => k (Option.some.inj hb))

end Clauses

section Cutting

variable {source : List Char}

theorem slice_of_mem_ofParts {front parts : List (List Char)} (h : front <+: parts)
    (k : [','].intercalate parts = source) {clause : Clause} (hc : clause ∈ ofParts front) :
    (source.drop clause.offset).take clause.text.length = clause.text := by
  obtain ⟨⟨start, part⟩, hp, rfl⟩ := List.mem_map.1 hc
  have hm : (start, part) ∈ located 0 parts := by
    obtain ⟨more, rfl⟩ := h
    rcases List.eq_nil_or_concat front with rfl | ⟨_, _, rfl⟩
    · cases hp
    · rw [Text.located_append ',' 0 (by simp)]
      exact List.mem_append_left _ hp
  obtain ⟨before, behind, htext, hstart, _⟩ := Text.exists_of_mem_located ',' hm
  rw [← k, htext, hstart, Nat.zero_add, List.drop_left, List.take_left]

theorem intercalate_concat_of_ne_nil {front : List (List Char)} (h : front ≠ [])
    (last : List Char) :
    [','].intercalate (front ++ [last]) = [','].intercalate front ++ ',' :: last := by
  obtain ⟨part, more, rfl⟩ := List.exists_cons_of_ne_nil h
  simp [Text.intercalate_cons]

theorem Kept.isPrefix {parts front : List (List Char)} (h : Kept parts front) :
    front <+: parts := by
  cases h with
  | all => exact List.prefix_rfl
  | butLast h => exact ⟨_, h.symm⟩

theorem Kept.joined {front : List (List Char)} (h : Kept (cut {} source) front) :
    front = [] ∧ Text.trim source = [] ∨ front ≠ [] ∧ Text.trim source ≠ [] ∧
      ((∃ last, front.getLast? = some last ∧ Text.trim last ≠ [] ∧
        [','].intercalate front = source) ∨
        ∃ remainder, Text.trim remainder = [] ∧
          source = [','].intercalate front ++ ',' :: remainder) := by
  have hjoin := intercalate_cut {} source
  cases h with
  | all hlast hfirm =>
    refine .inr ⟨cut_ne_nil {} source, fun hall => hfirm ?_, .inl ⟨_, hlast, hfirm, hjoin⟩⟩
    refine Text.trim_eq_nil_iff.2 fun c hc => Text.trim_eq_nil_iff.1 hall c ?_
    obtain ⟨before, hbefore⟩ := List.getLast?_eq_some_iff.1 hlast
    rw [← hjoin, hbefore, Text.intercalate_concat]
    exact List.mem_append_right _ hc
  | @butLast _ remainder hcut hblank =>
    rw [hcut] at hjoin
    by_cases hfront : front = []
    · subst hfront
      obtain rfl : remainder = source := by simpa [List.intercalate] using hjoin
      exact .inl ⟨rfl, hblank⟩
    · rw [intercalate_concat_of_ne_nil hfront] at hjoin
      refine .inr ⟨hfront, ?_, .inr ⟨remainder, hblank, hjoin.symm⟩⟩
      refine Text.trim_ne_nil_of_mem (c := ',') ?_ (by decide)
      rw [← hjoin]
      exact List.mem_append_right _ List.mem_cons_self

theorem Kept.mem_stops_iff {front : List (List Char)} (h : Kept (cut {} source) front) {place : Nat}
    (hp : place < source.length) :
    place ∈ stops 0 (cut {} source) ↔ ∃ clause ∈ ofParts front, clause.stop = place := by
  rw [← List.mem_map, map_stop_ofParts]
  cases h with
  | all => exact Iff.rfl
  | @butLast _ remainder hcut hblank =>
    obtain ⟨start, hs, hlast⟩ := located_concat 0 front remainder
    rw [← hcut, intercalate_cut, Nat.zero_add] at hlast
    rw [hcut, stops, hs, List.map_append, List.mem_append]
    simp only [List.map_singleton, List.mem_singleton, hlast]
    exact or_iff_left (Nat.ne_of_lt hp)

/-- A text is cut at its commas at top level. -/
theorem isCutting_ofText (source : List Char) : IsCutting source (ofText source) := by
  obtain ⟨front, hclauses, hkept⟩ := exists_kept_ofText source
  have hnil : ofParts front = [] ↔ front = [] := by
    rw [← List.map_eq_nil_iff (f := Clause.text), map_text_ofParts]
  rw [hclauses]
  exact
    { slice := fun clause hc => slice_of_mem_ofParts hkept.isPrefix (intercalate_cut {} source) hc
      first := by
        intro clause hc
        cases front with
        | nil => cases hc
        | cons part front =>
          obtain rfl := Option.some.inj hc
          rfl
      next := isChain_located 0 front
      commas := by
        intro place hp
        have hplace : IsTopComma source place ↔ 0 + place ∈ stops 0 (cut {} source) :=
          (and_congr_right fun _ => isTop_behind_iff.symm).trans (topComma_iff hp 0)
        rw [hplace, Nat.zero_add]
        exact hkept.mem_stops_iff hp
      blank := by
        rw [hnil]
        rcases hkept.joined with ⟨h, k⟩ | ⟨h, k, _⟩
        · exact iff_of_true h k
        · exact iff_of_false h k
      whole := by
        intro hne
        rw [joined_ofParts, map_text_ofParts]
        rcases hkept.joined with ⟨h, _⟩ | ⟨_, _, h⟩
        · exact absurd (hnil.2 h) hne
        · exact h
      single := by
        intro clause hc hfirm
        have hm : clause.text ∈ front := by
          rw [← map_text_ofParts front]
          exact List.mem_map_of_mem hc
        exact ofText_of_cut (cut_of_mem_cut (hkept.isPrefix.subset hm)) hfirm }

end Cutting

end SchemaText.Sql.Clause
