import Mathlib.Tactic.SplitIfs
import SchemaText.Proofs.Diagram.Enclosure
/-! The loops of the readers, round by round: a round that goes on leaves the place where it started
behind, so that a loop has no more rounds than the text has characters. -/

namespace SchemaText.Diagram

/-- The loops of the readers, with what they remember from one round to the next. -/
inductive Loop where
  | document (inStray : Bool)
  | tableEntries
  | enumEntries
  | indexEntries
  | attributes
  | settings
  | listItems
  | nameParts (dotted : Bool)
  | arguments (depth : Int)
  deriving Repr, DecidableEq

inductive Round where
  | leaves (next : Cursor)
  | goesOn (loop : Loop) (next : Cursor)
  deriving Repr, DecidableEq

namespace Loop

open Cursor

/-- One round of a loop from this place, unless the loop ends here. -/
def round? (loop : Loop) (c : Cursor) : Option Round :=
  match loop with
  | document _ =>
    if c.skipBlank.atEnd then none
    else
      match c.skipBlank.definition? with
      | some definition =>
        some (.goesOn (document false) (c.skipBlank.readDefinition definition).2)
      | none =>
        if c.skipBlank.isComment then some (.goesOn (document false) c.skipBlank.skipLine)
        else some (.goesOn (document true) c.skipBlank.next)
  | tableEntries =>
    if c.skipBlank.stopsAt '}' then none
    else some (.goesOn tableEntries c.skipBlank.readTableEntry.next)
  | enumEntries =>
    if c.skipBlank.stopsAt '}' then none
    else some (.goesOn enumEntries c.skipBlank.readEnumEntry.next)
  | indexEntries =>
    if c.atEnd then none
    else if c.skipBlank.stopsAt '}' then none
    else some (.goesOn indexEntries c.skipBlank.readIndexEntry.next)
  | attributes =>
    if c.stopsAt ']' then none
    else if c.skipBlank.stopsAt ']' then some (.leaves c.skipBlank)
    else some (.goesOn attributes c.skipBlank.readAttribute.next)
  | settings =>
    if c.stopsAt ']' then none
    else if c.peek = some '\n' then none
    else if c.skipBlank.peek = some ']' then some (.leaves c.skipBlank)
    else some (.goesOn settings c.skipBlank.readIndexSetting.2)
  | listItems =>
    match c.peek with
    | none => none
    | some ch =>
      if ch = ')' then none
      else if ch = '\n' then none
      else some (.goesOn listItems c.readListItem.2)
  | nameParts dotted =>
    if c.peek = some '.' then
      if c.next.continues then
        some (.goesOn (nameParts (endsInDot ('.' :: c.next.readName.1))) c.next.readName.2)
      else some (.leaves c.next)
    else if dotted && c.mark?.isSome then
      some (.goesOn (nameParts (endsInDot ('.' :: c.readName.1))) c.readName.2)
    else none
  | arguments depth =>
    match c.peek with
    | none => none
    | some ch =>
      if isMark ch then some (.goesOn (arguments depth) (c.next.readQuoted ch).2)
      else if ch = '(' then some (.goesOn (arguments (depth + 1)) c.next)
      else if ch = ')' then
        if depth = 1 then some (.leaves c.next) else some (.goesOn (arguments (depth - 1)) c.next)
      else if ch = '\n' then some (.leaves c)
      else some (.goesOn (arguments depth) c.next)

section Steps

variable {loop following : Loop} {c d : Cursor} {mark : Char}

theorem rest_ne_nil_of_not_stopsAt (h : ¬ c.stopsAt mark) : c.rest ≠ [] :=
  rest_ne_nil_of_stopsAt_eq_false (Bool.eq_false_iff.2 h)

theorem passes_of_document {inStray : Bool}
    (h : (document inStray).round? c = some (.goesOn following d)) : c.Passes d := by
  simp only [round?, Option.ite_none_left_eq_some] at h
  obtain ⟨hend, h⟩ := h
  have hrest : c.skipBlank.rest ≠ [] := fun k => hend (atEnd_iff.2 k)
  refine (reaches_skipBlank c).trans_passes ?_
  split at h
  · next definition hd =>
    cases h
    exact passes_readDefinition hd
  · split at h
    · cases h
      exact passes_skipLine hrest
    · cases h
      exact passes_next hrest

theorem passes_of_listItems (h : listItems.round? c = some (.goesOn following d)) :
    c.Passes d := by
  simp only [round?] at h
  split at h
  · cases h
  · next ch hc =>
    simp only [Option.ite_none_left_eq_some] at h
    obtain ⟨hclose, hline, h⟩ := h
    cases h
    exact passes_readListItem hc hclose hline

theorem passes_of_nameParts {dotted : Bool}
    (h : (nameParts dotted).round? c = some (.goesOn following d)) : c.Passes d := by
  simp only [round?] at h
  split at h
  · next hdot =>
    obtain ⟨rest, hr⟩ := peek_eq_some_iff.1 hdot
    split at h
    · cases h
      exact (passes_next (by simp [hr])).trans_reaches (reaches_readName _)
    · cases h
  · split at h
    · next hmark =>
      obtain ⟨mark, hm⟩ := Option.isSome_iff_exists.1 (Bool.and_eq_true_iff.1 hmark).2
      cases h
      exact passes_readName_of_mark? hm
    · cases h

theorem passes_of_arguments {depth : Int}
    (h : (arguments depth).round? c = some (.goesOn following d)) : c.Passes d := by
  simp only [round?] at h
  split at h
  · cases h
  · next ch hc =>
    obtain ⟨rest, hr⟩ := peek_eq_some_iff.1 hc
    have hnext : c.Passes c.next := passes_next (by simp [hr])
    split at h
    · cases h
      exact hnext.trans_reaches (reaches_readQuoted _ _)
    · -- Every other character is a round of its own.
      split_ifs at h <;> cases h <;> exact hnext

theorem passes_of_goesOn (h : loop.round? c = some (.goesOn following d)) : c.Passes d := by
  cases loop with
  | document inStray => exact passes_of_document h
  | listItems => exact passes_of_listItems h
  | nameParts dotted => exact passes_of_nameParts h
  | arguments depth => exact passes_of_arguments h
  | tableEntries =>
    simp only [round?, Option.ite_none_left_eq_some, Option.some.injEq, Round.goesOn.injEq] at h
    obtain ⟨hclose, rfl, rfl⟩ := h
    exact (reaches_skipBlank c).trans_passes
      (passes_readTableEntry (rest_ne_nil_of_not_stopsAt hclose))
  | enumEntries =>
    simp only [round?, Option.ite_none_left_eq_some, Option.some.injEq, Round.goesOn.injEq] at h
    obtain ⟨hclose, rfl, rfl⟩ := h
    exact (reaches_skipBlank c).trans_passes
      (passes_readEnumEntry (rest_ne_nil_of_not_stopsAt hclose))
  | indexEntries =>
    simp only [round?, Option.ite_none_left_eq_some, Option.some.injEq, Round.goesOn.injEq] at h
    obtain ⟨_, hclose, rfl, rfl⟩ := h
    exact (reaches_skipBlank c).trans_passes
      (passes_readIndexEntry (rest_ne_nil_of_not_stopsAt hclose))
  | attributes =>
    simp only [round?, Option.ite_none_left_eq_some] at h
    obtain ⟨_, h⟩ := h
    split at h
    · cases h
    · next hclose =>
      cases h
      exact (reaches_skipBlank c).trans_passes
        (passes_readAttribute (rest_ne_nil_of_not_stopsAt hclose))
  | settings =>
    simp only [round?, Option.ite_none_left_eq_some] at h
    obtain ⟨hclose, _, h⟩ := h
    split at h
    · cases h
    · cases h
      exact passes_readIndexSetting_skipBlank (rest_ne_nil_of_not_stopsAt hclose)

theorem passes_skipBlank_of_peek (h : ¬ c.stopsAt mark) (k : c.skipBlank.stopsAt mark) :
    c.Passes c.skipBlank := by
  refine (reaches_skipBlank c).rest_eq_or_passes.resolve_left fun hr => h ?_
  rwa [stopsAt, atEnd, peek, hr] at k

theorem passes_of_leaves (h : loop.round? c = some (.leaves d)) :
    c.Passes d ∨ d = c ∧ c.peek = some '\n' ∧ ∃ depth, loop = arguments depth := by
  cases loop with
  | document inStray =>
    simp only [round?, Option.ite_none_left_eq_some] at h
    obtain ⟨_, h⟩ := h
    split at h
    · cases h
    · split at h <;> cases h
  | tableEntries | enumEntries | indexEntries => simp [round?] at h
  | listItems =>
    simp only [round?] at h
    split at h
    · cases h
    · simp at h
  | attributes =>
    simp only [round?, Option.ite_none_left_eq_some] at h
    obtain ⟨hclose, h⟩ := h
    split at h
    · next hblank =>
      cases h
      exact .inl (passes_skipBlank_of_peek hclose hblank)
    · cases h
  | settings =>
    simp only [round?, Option.ite_none_left_eq_some] at h
    obtain ⟨hclose, _, h⟩ := h
    split at h
    · next hblank =>
      cases h
      exact .inl (passes_skipBlank_of_peek hclose (by simp [stopsAt, hblank]))
    · cases h
  | nameParts dotted =>
    simp only [round?] at h
    split at h
    · next hdot =>
      obtain ⟨rest, hr⟩ := peek_eq_some_iff.1 hdot
      split at h
      · cases h
      · cases h
        exact .inl (passes_next (by simp [hr]))
    · split at h <;> cases h
  | arguments depth =>
    simp only [round?] at h
    split at h
    · cases h
    · next ch hc =>
      obtain ⟨rest, hr⟩ := peek_eq_some_iff.1 hc
      split_ifs at h with hmark hopen hclose hone hline <;> cases h
      · exact .inl (passes_next (by simp [hr]))
      · exact .inr ⟨rfl, hline ▸ hc, depth, rfl⟩

end Steps

section Runs

def starts (loop : Loop) (c : Cursor) : List Nat :=
  match _ : loop.round? c with
  | some (.goesOn following next) => c.offset :: following.starts next
  | _ => [c.offset]
termination_by c.rest.length
decreasing_by exact (passes_of_goesOn ‹_›).length_lt

theorem starts_increase (loop : Loop) (c : Cursor) :
    (loop.starts c).Pairwise (· < ·) ∧
      ∀ q ∈ loop.starts c, c.offset ≤ q ∧ q ≤ c.offset + c.rest.length := by
  fun_induction starts loop c with
  | case1 loop c following next h ih =>
    obtain ⟨hpairs, hbounds⟩ := ih
    have hpass := passes_of_goesOn h
    have hlt := hpass.offset_lt
    have hsum := hpass.reaches.offset_add_length
    refine ⟨List.pairwise_cons.2 ⟨fun q hq => ?_, hpairs⟩, List.forall_mem_cons.2 ⟨?_, ?_⟩⟩
    · exact Nat.lt_of_lt_of_le hlt (hbounds q hq).1
    · omega
    · intro q hq
      have := hbounds q hq
      omega
  | case2 loop c h => simp

end Runs

section Readers

/-- Where a reader ends whose loop is at this place. -/
def finish (loop : Loop) (c : Cursor) : Cursor :=
  match loop with
  | document _ => ⟨c.offset + c.rest.length, [], 0⟩
  | tableEntries => c.readTableEntries.next
  | enumEntries => c.readEnumEntries.next
  | indexEntries => c.readIndexEntries.next
  | attributes => c.readAttributes.next
  | settings => c.readIndexSettings.2
  | listItems => c.readListItems.2
  | nameParts dotted => (c.readNameTail dotted).2
  | arguments depth => c.argumentsEnd depth

def close (loop : Loop) (c : Cursor) : Cursor :=
  match loop with
  | document _ | tableEntries | enumEntries => c.skipBlank
  | indexEntries => if c.atEnd then c else c.skipBlank
  | listItems => c.eat ')'
  | _ => c

def finishAfter (loop : Loop) (c : Cursor) : Option Round → Cursor
  | none => loop.close c
  | some (.leaves next) => next
  | some (.goesOn following next) => following.finish next

variable {c d : Cursor}

theorem finish_document_eq (h : c.Reaches d) (inStray following : Bool) :
    (document inStray).finish c = (document following).finish d := by
  show (⟨c.offset + c.rest.length, [], 0⟩ : Cursor) = ⟨d.offset + d.rest.length, [], 0⟩
  rw [h.offset_add_length]

theorem finish_document_of_atEnd (h : c.skipBlank.atEnd) (inStray : Bool) :
    (document inStray).finish c = c.skipBlank := by
  rw [finish_document_eq (reaches_skipBlank c) inStray inStray]
  show (⟨c.skipBlank.offset + c.skipBlank.rest.length, [], 0⟩ : Cursor) =
    ⟨c.skipBlank.offset, c.skipBlank.rest, 0⟩
  rw [atEnd_iff.1 h, List.length_nil, Nat.add_zero]

theorem finish_eq (loop : Loop) (c : Cursor) :
    loop.finish c = loop.finishAfter c (loop.round? c) := by
  cases loop with
  | document inStray =>
    have hblank := reaches_skipBlank c
    rw [round?]
    split
    · next hend => exact finish_document_of_atEnd hend inStray
    · split
      · next definition hd =>
        exact finish_document_eq (hblank.trans (passes_readDefinition hd).reaches) inStray false
      · split
        · exact finish_document_eq (hblank.trans (reaches_skipLine _)) inStray false
        · exact finish_document_eq (hblank.trans (reaches_next _)) inStray true
  | tableEntries =>
    rw [round?, finish, readTableEntries]
    split_ifs <;> rfl
  | enumEntries =>
    rw [round?, finish, readEnumEntries]
    split_ifs <;> rfl
  | indexEntries =>
    rw [round?, finish, readIndexEntries]
    split_ifs with hend hclose
    · show c = if c.atEnd then c else c.skipBlank
      rw [if_pos hend]
    · show c.skipBlank = if c.atEnd then c else c.skipBlank
      rw [if_neg hend]
    · rfl
  | attributes =>
    rw [round?, finish, readAttributes]
    split_ifs <;> rfl
  | settings =>
    rw [round?, finish, readIndexSettings]
    split_ifs <;> rfl
  | listItems =>
    rw [round?, finish, readListItems]
    split
    · next hc => simp [hc, finishAfter, close, eat]
    · next ch hc =>
      simp only [hc]
      split_ifs with hclose hline
      · simp [finishAfter, close, eat, hc, hclose]
      · simp [finishAfter, close, eat, hc, hline]
      · rfl
      · rfl
  | nameParts dotted =>
    rw [round?, finish, readNameTail]
    split_ifs <;> rfl
  | arguments depth =>
    rw [round?, finish, argumentsEnd]
    split
    · next hc =>
      simp only [hc]
      rfl
    · next ch hc =>
      simp only [hc]
      split_ifs <;> rfl

theorem segments_of_goesOn {inStray following : Bool}
    (h : (document inStray).round? c = some (.goesOn (document following) d)) :
    d.segments following <:+ c.segments inStray := by
  simp only [round?, Option.ite_none_left_eq_some] at h
  obtain ⟨hend, h⟩ := h
  split at h
  · next definition hd =>
    cases h
    rw [segments_definition hend hd]
    exact List.suffix_cons _ _
  · next hd =>
    rw [segments_other hend hd]
    split at h
    · next hcomment =>
      cases h
      rw [if_pos hcomment]
      exact List.suffix_cons _ _
    · next hcomment =>
      cases h
      rw [if_neg hcomment]
      split
      · exact List.suffix_rfl
      · exact List.suffix_cons _ _

end Readers

end Loop

end SchemaText.Diagram
