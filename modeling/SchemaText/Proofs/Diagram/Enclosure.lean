import SchemaText.Proofs.Diagram.InnerReport
/-! The parts of a text in the notation that a mark encloses, and what is reported of one whose
closing mark is missing. -/

namespace SchemaText.Diagram

/-- The parts that a brace or a bracket closes. -/
inductive Part where
  | tableBody
  | enumBody
  | indexBlock
  | attributeList
  | settingsList
  deriving Repr, DecidableEq

def Part.closing : Part → Char
  | tableBody | enumBody | indexBlock => '}'
  | attributeList | settingsList => ']'

namespace Cursor

section Visits

def tableBody (c : Cursor) : Cursor :=
  c.skipKeyword.skipBlank.readQualifiedName.2.skipBlank.skipAlias.skipTableSettings.next

/-- Where the body of an enumeration may start, from its keyword. -/
def enumBody (c : Cursor) : Cursor :=
  c.skipKeyword.skipBlank.readQualifiedName.2.skipBlank

/-- Reading the text from here comes to a definition there. -/
inductive ComesTo : Cursor → Definition → Cursor → Prop where
  | here {c : Cursor} {definition : Definition} (h : ¬ c.skipBlank.atEnd)
      (k : c.skipBlank.definition? = some definition) : ComesTo c definition c.skipBlank
  | definition {c d : Cursor} {first definition : Definition} (h : ¬ c.skipBlank.atEnd)
      (k : c.skipBlank.definition? = some first)
      (r : ComesTo (c.skipBlank.readDefinition first).2 definition d) : ComesTo c definition d
  | comment {c d : Cursor} {definition : Definition} (h : ¬ c.skipBlank.atEnd)
      (k : c.skipBlank.definition? = none) (hc : c.skipBlank.isComment)
      (r : ComesTo c.skipBlank.skipLine definition d) : ComesTo c definition d
  | stray {c d : Cursor} {definition : Definition} (h : ¬ c.skipBlank.atEnd)
      (k : c.skipBlank.definition? = none) (hc : ¬ c.skipBlank.isComment)
      (r : ComesTo c.skipBlank.next definition d) : ComesTo c definition d

/-- Reading entries of a table block from here comes to one there. -/
inductive TableEntryAt : Cursor → Cursor → Prop where
  | here {c : Cursor} (h : ¬ c.skipBlank.stopsAt '}') : TableEntryAt c c.skipBlank
  | later {c d : Cursor} (h : ¬ c.skipBlank.stopsAt '}')
      (r : TableEntryAt c.skipBlank.readTableEntry.next d) : TableEntryAt c d

/-- Reading entries of an index block from here comes to one there. -/
inductive IndexEntryAt : Cursor → Cursor → Prop where
  | here {c : Cursor} (h : ¬ c.skipBlank.stopsAt '}') : IndexEntryAt c c.skipBlank
  | later {c d : Cursor} (h : ¬ c.skipBlank.stopsAt '}')
      (r : IndexEntryAt c.skipBlank.readIndexEntry.next d) : IndexEntryAt c d

def isIndexes (c : Cursor) : Bool :=
  !c.isComment && !c.isNote && c.isIndexBlock

def hasAttributes (c : Cursor) : Bool :=
  !c.isComment && !c.isNote && !c.isIndexBlock && c.readNameAndType.1.1 ≠ [] &&
    c.readNameAndType.1.2 ≠ [] && c.readNameAndType.2.skipInline.peek == some '['

def hasSettings (c : Cursor) : Bool :=
  !c.isComment && c.readIndexColumns.1 ≠ [] &&
    c.readIndexColumns.2.skipInline.peek == some '['

end Visits

/-- Reading the text from here enters a part and stops there, behind what it holds. -/
inductive Encloses (start : Cursor) : Part → Cursor → Prop where
  | tableBody {c : Cursor} (h : start.ComesTo .table c) (k : c.tableBody.peek = some '{') :
      Encloses start .tableBody c.tableBody.next.readTableEntries.next
  | enumBody {c : Cursor} (h : start.ComesTo .enumeration c) (k : c.enumBody.peek = some '{') :
      Encloses start .enumBody c.enumBody.next.readEnumEntries.next
  | indexBlock {c d : Cursor} (h : start.ComesTo .table c) (k : c.tableBody.peek = some '{')
      (hd : c.tableBody.next.TableEntryAt d) (hi : d.isIndexes) :
      Encloses start .indexBlock d.skipKeyword.skipBlank.next.readIndexEntries.next
  | attributeList {c d : Cursor} (h : start.ComesTo .table c) (k : c.tableBody.peek = some '{')
      (hd : c.tableBody.next.TableEntryAt d) (ha : d.hasAttributes) :
      Encloses start .attributeList d.readNameAndType.2.skipInline.next.readAttributes.next
  | settingsList {c d e : Cursor} (h : start.ComesTo .table c) (k : c.tableBody.peek = some '{')
      (hd : c.tableBody.next.TableEntryAt d) (hi : d.isIndexes)
      (he : d.skipKeyword.skipBlank.next.IndexEntryAt e) (hs : e.hasSettings) :
      Encloses start .settingsList e.readIndexColumns.2.skipInline.next.readIndexSettings.2

section Ends

variable {c d : Cursor} {mark : Char}

theorem Reaches.rest_eq_nil (h : c.Reaches d) (k : c.rest = []) : d.rest = [] := by
  obtain ⟨taken, hr, _⟩ := h
  exact (List.append_eq_nil_iff.1 (hr.symm.trans k)).2

theorem rest_eq_nil_of_stopsAt (h : c.stopsAt mark) (k : c.peek ≠ some mark) : c.rest = [] := by
  rcases Bool.or_eq_true_iff.1 h with h | h
  · exact atEnd_iff.1 h
  · exact absurd (beq_iff_eq.1 h) k

theorem peek_ne_of_rest_eq_nil (h : c.rest = []) : c.peek ≠ some mark := by
  simp [peek, h]

theorem stopsAt_readIndexEntries (c : Cursor) : c.readIndexEntries.next.stopsAt '}' := by
  fun_induction readIndexEntries c with
  | case1 c h => simp [stopsAt, h]
  | case2 c _ h => exact h
  | case3 c _ h entry entries ih => exact ih

theorem stop_readIndexSettings (c : Cursor) :
    c.readIndexSettings.2.stopsAt ']' ∨ c.readIndexSettings.2.peek = some '\n' := by
  fun_induction readIndexSettings c with
  | case1 c h => exact .inl h
  | case2 c _ h => exact .inr h
  | case3 c _ _ h => exact .inl (by simp [stopsAt, h])
  | case4 c _ _ _ setting settings ih => exact ih

end Ends

section Equations

variable {c : Cursor}

theorem readTableEntries_entry (h : ¬ c.skipBlank.stopsAt '}') :
    c.readTableEntries =
      let entry := c.skipBlank.readTableEntry
      let entries := entry.next.readTableEntries
      ⟨entry.value.toList ++ entries.value, entries.next,
        entry.diagnostics ++ entries.diagnostics⟩ := by
  rw [readTableEntries, dif_neg h]

theorem not_atEnd_of_skipBlank {mark : Char} (h : ¬ c.skipBlank.stopsAt mark) : ¬ c.atEnd := by
  intro k
  have hr := (reaches_skipBlank c).rest_eq_nil (atEnd_iff.1 k)
  exact h (by simp [stopsAt, atEnd_iff.2 hr])

theorem readIndexEntries_entry (h : ¬ c.skipBlank.stopsAt '}') :
    c.readIndexEntries =
      let entry := c.skipBlank.readIndexEntry
      let entries := entry.next.readIndexEntries
      ⟨entry.value.toList ++ entries.value, entries.next,
        entry.diagnostics ++ entries.diagnostics⟩ := by
  rw [readIndexEntries, if_neg (not_atEnd_of_skipBlank h), dif_neg h]

theorem segments_definition {definition : Definition} (h : ¬ c.skipBlank.atEnd)
    (k : c.skipBlank.definition? = some definition) (inStray : Bool) :
    c.segments inStray = (c.skipBlank.readDefinition definition).1 ::
      (c.skipBlank.readDefinition definition).2.segments false := by
  rw [segments, dif_neg h]
  split
  · next first hd =>
    obtain rfl := Option.some.inj (hd.symm.trans k)
    rfl
  · next hd => cases hd.symm.trans k

theorem segments_other (h : ¬ c.skipBlank.atEnd) (k : c.skipBlank.definition? = none)
    (inStray : Bool) :
    c.segments inStray =
      if c.skipBlank.isComment then .comment :: c.skipBlank.skipLine.segments false
      else if inStray then c.skipBlank.next.segments true
      else .stray c.skipBlank.offset :: c.skipBlank.next.segments true := by
  rw [segments, dif_neg h]
  split
  · next hd => cases hd.symm.trans k
  · rfl

end Equations

section Lifts

variable {c d : Cursor}

theorem TableEntryAt.reaches (h : c.TableEntryAt d) :
    d.readTableEntry.next.Reaches c.readTableEntries.next := by
  induction h with
  | here h =>
    rw [readTableEntries_entry h]
    exact reaches_readTableEntries _
  | later h _ ih =>
    rw [readTableEntries_entry h]
    exact ih

theorem TableEntryAt.diagnostics_subset (h : c.TableEntryAt d) :
    d.readTableEntry.diagnostics ⊆ c.readTableEntries.diagnostics := by
  induction h with
  | here h =>
    rw [readTableEntries_entry h]
    exact List.subset_append_left _ _
  | later h _ ih =>
    rw [readTableEntries_entry h]
    exact List.subset_append_of_subset_right _ ih

theorem IndexEntryAt.reaches (h : c.IndexEntryAt d) :
    d.readIndexEntry.next.Reaches c.readIndexEntries.next := by
  induction h with
  | here h =>
    rw [readIndexEntries_entry h]
    exact reaches_readIndexEntries _
  | later h _ ih =>
    rw [readIndexEntries_entry h]
    exact ih

theorem ComesTo.mem_segments {definition : Definition} (h : c.ComesTo definition d)
    (inStray : Bool) : (d.readDefinition definition).1 ∈ c.segments inStray := by
  induction h generalizing inStray with
  | here h k =>
    rw [segments_definition h k]
    exact List.mem_cons_self
  | definition h k _ ih =>
    rw [segments_definition h k]
    exact List.mem_cons_of_mem _ (ih false)
  | comment h k hc _ ih =>
    rw [segments_other h k, if_pos hc]
    exact List.mem_cons_of_mem _ (ih false)
  | stray h k hc _ ih =>
    rw [segments_other h k, if_neg hc]
    split
    · exact ih true
    · exact List.mem_cons_of_mem _ (ih true)

theorem ComesTo.readTable_subset {source : String}
    (h : (ofPosition source.toList 0).ComesTo .table c) :
    c.readTable.diagnostics ⊆ (read source).diagnostics :=
  Segment.ownDiagnostics_subset (h.mem_segments false) []

end Lifts

section Reports

variable {c d e : Cursor}

theorem readTableBody_subset (c : Cursor) :
    (c.readTableBody c.tableBody).diagnostics ⊆ c.readTable.diagnostics := by
  unfold readTable tableBody
  dsimp only
  split
  · exact List.subset_append_of_subset_left _ (List.subset_append_right _ _)
  · exact List.subset_append_right _ _

theorem tableEntries_subset (h : c.tableBody.peek = some '{') :
    c.tableBody.next.readTableEntries.diagnostics ⊆ c.readTable.diagnostics := by
  refine List.Subset.trans ?_ (readTableBody_subset c)
  unfold readTableBody
  rw [if_pos h]
  dsimp only
  split
  · exact List.Subset.refl _
  · exact List.subset_append_left _ _

theorem mem_readTable_of_open (h : c.tableBody.peek = some '{')
    (k : c.tableBody.next.readTableEntries.next.peek ≠ some '}') :
    Notice.tableNotClosed.diagnostic c.position ∈ c.readTable.diagnostics := by
  refine readTableBody_subset c ?_
  unfold readTableBody
  rw [if_pos h]
  dsimp only
  rw [if_neg k]
  exact List.mem_append_right _ List.mem_cons_self

theorem readTableEntry_of_isIndexes (h : d.isIndexes) :
    d.readTableEntry.next = d.readIndexBlock.next := by
  simp only [isIndexes, Bool.and_eq_true, Bool.not_eq_true'] at h
  obtain ⟨⟨hcomment, hnote⟩, hindexes⟩ := h
  unfold readTableEntry
  rw [if_neg (by simp [hcomment]), if_neg (by simp [hnote]), if_pos hindexes]

theorem mem_readTable_of_indexBlock (h : c.tableBody.peek = some '{')
    (hd : c.tableBody.next.TableEntryAt d) (hi : d.isIndexes)
    (k : d.skipKeyword.skipBlank.next.readIndexEntries.next.rest = []) :
    Notice.tableNotClosed.diagnostic c.position ∈ c.readTable.diagnostics := by
  refine mem_readTable_of_open h (peek_ne_of_rest_eq_nil (hd.reaches.rest_eq_nil ?_))
  rw [readTableEntry_of_isIndexes hi]
  exact (reaches_eat _ _).rest_eq_nil k

theorem readIndexEntry_of_hasSettings (h : e.hasSettings) :
    e.readIndexColumns.2.skipInline.next.readIndexSettings.2.Reaches e.readIndexEntry.next := by
  simp only [hasSettings, Bool.and_eq_true, Bool.not_eq_true', decide_eq_true_eq, beq_iff_eq] at h
  obtain ⟨⟨hcomment, hcolumns⟩, hbracket⟩ := h
  unfold readIndexEntry readIndex readIndexTail
  rw [if_neg (by simp [hcomment])]
  dsimp only
  rw [if_neg hcolumns, if_pos hbracket]
  exact (reaches_eat _ _).trans (reaches_skipEntry _)

theorem mem_readTableEntry_of_hasAttributes (h : d.hasAttributes)
    (k : d.readNameAndType.2.skipInline.next.readAttributes.next.peek ≠ some ']') :
    Notice.attributesNotClosed.diagnostic
        d.readNameAndType.2.skipInline.next.readAttributes.next.position ∈
      d.readTableEntry.diagnostics := by
  simp only [hasAttributes, Bool.and_eq_true, Bool.not_eq_true', decide_eq_true_eq, beq_iff_eq] at h
  obtain ⟨⟨⟨⟨⟨hcomment, hnote⟩, hindexes⟩, hname⟩, htype⟩, hbracket⟩ := h
  unfold readTableEntry readColumn readColumnTail readAttributeList
  rw [if_neg (by simp [hcomment]), if_neg (by simp [hnote]), if_neg (by simp [hindexes])]
  dsimp only
  rw [if_neg (by simp [hname, htype]), if_pos hbracket, if_neg k]
  exact List.mem_append_right _ List.mem_cons_self

end Reports

end Cursor

open Cursor

theorem exists_report_of_open {source : String} {part : Part} {stop : Cursor}
    (h : Encloses (ofPosition source.toList 0) part stop) (k : stop.peek ≠ some part.closing)
    (henum : part ≠ .enumBody) (hline : part = .settingsList → stop.peek ≠ some '\n') :
    ∃ notice offset, (notice = Notice.tableNotClosed ∨ notice = .attributesNotClosed) ∧
      notice.diagnostic offset ∈ (read source).diagnostics := by
  cases h with
  | tableBody h hb => exact ⟨_, _, .inl rfl, h.readTable_subset (mem_readTable_of_open hb k)⟩
  | enumBody => exact absurd rfl henum
  | indexBlock h hb hd hi =>
    have hend := rest_eq_nil_of_stopsAt (stopsAt_readIndexEntries _) k
    exact ⟨_, _, .inl rfl, h.readTable_subset (mem_readTable_of_indexBlock hb hd hi hend)⟩
  | attributeList h hb hd ha =>
    have hreport := hd.diagnostics_subset (mem_readTableEntry_of_hasAttributes ha k)
    exact ⟨_, _, .inr rfl, h.readTable_subset (tableEntries_subset hb hreport)⟩
  | settingsList h hb hd hi he hs =>
    have hstop := (stop_readIndexSettings _).resolve_right (hline rfl)
    have hend := he.reaches.rest_eq_nil
      ((readIndexEntry_of_hasSettings hs).rest_eq_nil (rest_eq_nil_of_stopsAt hstop k))
    exact ⟨_, _, .inl rfl, h.readTable_subset (mem_readTable_of_indexBlock hb hd hi hend)⟩

/-- Strict reading refuses a text in which such a part is left open. -/
theorem refused_of_open {source : String} {part : Part} {stop : Cursor}
    (h : Encloses (ofPosition source.toList 0) part stop) (k : stop.peek ≠ some part.closing)
    (henum : part ≠ .enumBody) (hline : part = .settingsList → stop.peek ≠ some '\n') :
    (read source).diagnostics ≠ [] ∧
      (read source).accept true = .error ⟨(read source).diagnostics⟩ := by
  obtain ⟨notice, offset, _, hm⟩ := exists_report_of_open h k henum hline
  have hne := List.ne_nil_of_mem hm
  refine ⟨hne, ?_⟩
  rw [Reading.accept, if_pos (by simpa using hne)]

def openAttributes : String :=
  "Table t \x7b\n a int [pk\n\x7d"

theorem refused_openAttributes :
    ∃ stop, Encloses (ofPosition openAttributes.toList 0) .attributeList stop ∧
      stop.peek ≠ some Part.attributeList.closing ∧
      (read openAttributes).diagnostics ≠ [] ∧
      (read openAttributes).accept true = .error ⟨(read openAttributes).diagnostics⟩ := by
  have h : Encloses (ofPosition openAttributes.toList 0) .attributeList _ :=
    .attributeList (.here (by decide +kernel) (by decide +kernel)) (by decide +kernel)
      (.here (by decide +kernel)) (by decide +kernel)
  exact ⟨_, h, by decide +kernel, refused_of_open h (by decide +kernel) (by decide) nofun⟩

def openEnumeration : String :=
  "Enum a \x7b\n x"

def openSettings : String :=
  "Table t \x7b\n a int\n indexes \x7b\n a [\n \x7d\n\x7d"

/-- The other two kinds are left open without a report. -/
theorem silent_of_open :
    (∃ stop, Encloses (ofPosition openEnumeration.toList 0) .enumBody stop ∧
      stop.peek ≠ some Part.enumBody.closing ∧ (read openEnumeration).diagnostics = []) ∧
    ∃ stop, Encloses (ofPosition openSettings.toList 0) .settingsList stop ∧
      stop.peek ≠ some Part.settingsList.closing ∧ (read openSettings).diagnostics = [] := by
  have henum : Encloses (ofPosition openEnumeration.toList 0) .enumBody _ :=
    .enumBody (.here (by decide +kernel) (by decide +kernel)) (by decide +kernel)
  have hsettings : Encloses (ofPosition openSettings.toList 0) .settingsList _ :=
    .settingsList (.here (by decide +kernel) (by decide +kernel)) (by decide +kernel)
      (.later (by decide +kernel) (.here (by decide +kernel))) (by decide +kernel)
      (.here (by decide +kernel)) (by decide +kernel)
  exact ⟨⟨_, henum, by decide +kernel, by decide +kernel⟩,
    ⟨_, hsettings, by decide +kernel, by decide +kernel⟩⟩

end SchemaText.Diagram
