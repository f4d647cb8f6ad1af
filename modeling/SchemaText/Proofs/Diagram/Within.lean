import SchemaText.Diagram.Document
/-! Readers that stay within their text: from a place in it none of them ends past its end. -/

namespace SchemaText.Diagram.Cursor

section Places

variable {c d : Cursor} {mark : Char}

theorem overrun_skipBlank (c : Cursor) : c.skipBlank.overrun = 0 := rfl

theorem overrun_next (h : c.overrun = 0) (k : c.rest ≠ []) : c.next.overrun = 0 := by
  obtain ⟨ch, rest, hr⟩ := List.exists_cons_of_ne_nil k
  simp only [next, hr, h]

theorem overrun_next_of_peek (h : c.overrun = 0) (k : c.peek = some mark) :
    c.next.overrun = 0 := by
  obtain ⟨rest, hr⟩ := peek_eq_some_iff.1 k
  exact overrun_next h (by simp [hr])

theorem overrun_eat (mark : Char) (h : c.overrun = 0) : (c.eat mark).overrun = 0 := by
  unfold eat
  split
  · next hp => exact overrun_next_of_peek h (beq_iff_eq.1 hp)
  · exact h

theorem overrun_advanceTo (h : c.overrun = 0) (k : c.rest ≠ []) (hd : d.overrun = 0) :
    (c.advanceTo d).overrun = 0 := by
  unfold advanceTo
  split
  · exact hd
  · exact overrun_next h k

theorem overrun_skipLine (c : Cursor) : c.skipLine.overrun = 0 :=
  overrun_eat _ rfl

theorem overrun_skipOptional (mark : Char) (c : Cursor) : (c.skipOptional mark).overrun = 0 := by
  unfold skipOptional
  dsimp only
  split <;> rfl

end Places

section Names

variable {c : Cursor}

theorem overrun_readName (c : Cursor) : c.readName.2.overrun = 0 := by
  unfold readName
  split
  · exact overrun_eat _ rfl
  · rfl

theorem overrun_readNameTail (dotted : Bool) (h : c.overrun = 0) :
    (c.readNameTail dotted).2.overrun = 0 := by
  fun_induction readNameTail dotted c with
  | case1 dotted c hd hc part tail ih => exact ih (overrun_readName _)
  | case2 dotted c hd hc => exact overrun_next_of_peek h hd
  | case3 dotted c hd hm part tail ih => exact ih (overrun_readName _)
  | case4 dotted c hd hm => exact h

theorem overrun_readQualifiedName (c : Cursor) : c.readQualifiedName.2.overrun = 0 :=
  overrun_readNameTail _ (overrun_readName c)

end Names

section Attributes

variable {c : Cursor}

theorem overrun_readAttribute (h : c.overrun = 0) (k : c.rest ≠ []) :
    c.readAttribute.next.overrun = 0 := by
  unfold readAttribute
  dsimp only
  split
  · exact overrun_advanceTo h k (overrun_readName c)
  · exact overrun_eat _ rfl

theorem overrun_readAttributes (h : c.overrun = 0) : c.readAttributes.next.overrun = 0 := by
  fun_induction readAttributes c with
  | case1 => exact h
  | case2 => rfl
  | case3 c _ hs entry entries ih =>
    exact ih (overrun_readAttribute rfl (rest_ne_nil_of_stopsAt_eq_false (Bool.eq_false_iff.2 hs)))

end Attributes

section Definitions

theorem overrun_readTableEntries (c : Cursor) : c.readTableEntries.next.overrun = 0 := by
  fun_induction readTableEntries c with
  | case1 => rfl
  | case2 c _ entry entries ih => exact ih

theorem overrun_readEnumEntries (c : Cursor) : c.readEnumEntries.next.overrun = 0 := by
  fun_induction readEnumEntries c with
  | case1 => rfl
  | case2 c _ entry entries ih => exact ih

theorem overrun_skipAlias {c : Cursor} (h : c.overrun = 0) : c.skipAlias.overrun = 0 := by
  unfold skipAlias
  split
  · rfl
  · exact h

theorem overrun_skipTableSettings {c : Cursor} (h : c.overrun = 0) :
    c.skipTableSettings.next.overrun = 0 := by
  unfold skipTableSettings
  split
  · rfl
  · exact h

theorem overrun_readTableBody (start : Cursor) {c : Cursor} (h : c.overrun = 0) :
    (start.readTableBody c).next.overrun = 0 := by
  unfold readTableBody
  dsimp only
  split
  · split
    · next hp => exact overrun_next_of_peek (overrun_readTableEntries _) hp
    · exact overrun_readTableEntries _
  · exact h

theorem overrun_readTable (c : Cursor) : c.readTable.next.overrun = 0 := by
  have hbody := overrun_readTableBody c (overrun_skipTableSettings (overrun_skipAlias
    (overrun_skipBlank c.skipKeyword.skipBlank.readQualifiedName.2)))
  unfold readTable
  dsimp only
  split <;> exact hbody

theorem overrun_readEnumeration (c : Cursor) : c.readEnumeration.next.overrun = 0 := by
  unfold readEnumeration readEnumBody
  dsimp only
  split
  · exact overrun_eat _ (overrun_readEnumEntries _)
  · exact overrun_skipBlank _

theorem overrun_skipRelationshipName (c : Cursor) : c.skipRelationshipName.overrun = 0 := by
  unfold skipRelationshipName
  split <;> exact overrun_skipOptional _ _

theorem overrun_readRelationship (c : Cursor) : c.readRelationship.next.overrun = 0 := by
  unfold readRelationship
  dsimp only
  split
  · exact overrun_readQualifiedName _
  · exact overrun_skipBlank _
  · exact overrun_skipRelationshipName _

theorem overrun_readDefinition (c : Cursor) (definition : Definition) :
    (c.readDefinition definition).2.overrun = 0 := by
  cases definition with
  | table => simpa only [readDefinition] using overrun_readTable c
  | relationship => simpa only [readDefinition] using overrun_readRelationship c
  | enumeration => simpa only [readDefinition] using overrun_readEnumeration c

end Definitions

section Text

variable {text : List Char} {c d : Cursor} {p : Nat}

structure Within (text : List Char) (c : Cursor) : Prop where
  rest : c.rest = text.drop c.offset
  offset_le : c.offset ≤ text.length
  overrun : c.overrun = 0

theorem within_ofPosition (h : p ≤ text.length) : (ofPosition text p).Within text where
  rest := by rw [ofPosition, Nat.min_eq_left h]
  offset_le := Nat.min_le_right _ _
  overrun := Nat.sub_eq_zero_of_le h

theorem Within.eq_ofPosition (h : c.Within text) : ofPosition text c.offset = c := by
  rw [ofPosition, Nat.min_eq_left h.offset_le, Nat.sub_eq_zero_of_le h.offset_le, ← h.rest,
    ← h.overrun]

theorem Within.of_reaches (h : c.Within text) (k : c.Reaches d) (hd : d.overrun = 0) :
    d.Within text := by
  obtain ⟨taken, hrest, hoffset⟩ := k
  rw [h.rest] at hrest
  have hlen := congrArg List.length hrest
  rw [List.length_drop, List.length_append] at hlen
  have hc := h.offset_le
  refine ⟨?_, by omega, hd⟩
  rw [hoffset, ← List.drop_drop, hrest, List.drop_left]

theorem Passes.offset_lt (h : c.Passes d) : c.offset < d.offset := by
  obtain ⟨taken, hne, _, hoffset⟩ := h
  have := List.length_pos_iff.2 hne
  omega

theorem Within.peek_eq (h : c.Within text) : c.peek = text[c.offset]? := by
  rw [peek, h.rest, List.head?_drop]

theorem Within.offset_eq_length (h : c.Within text) (k : c.rest = []) :
    c.offset = text.length := by
  have hdrop := List.drop_eq_nil_iff.1 (h.rest.symm.trans k)
  exact Nat.le_antisymm h.offset_le hdrop

theorem offset_next (h : c.rest ≠ []) : c.next.offset = c.offset + 1 := by
  obtain ⟨ch, rest, hr⟩ := List.exists_cons_of_ne_nil h
  simp only [next, hr]

end Text

end SchemaText.Diagram.Cursor
