import SchemaText.Diagram.Document
import SchemaText.Proofs.Diagram.LegibleName
import SchemaText.Proofs.QualifiedName
/-! What schemas the reader can return, whatever the text is. -/

namespace SchemaText.Diagram

structure LegibleColumn (column : Column) : Prop where
  name_ne : column.name ≠ ""
  type_ne : column.type ≠ ""
  name_quotable : Quotable column.name.toList
  default_quotable :
    ∀ value ∈ column.default, needsQuotes value.toList → Quotable value.toList

structure LegibleIndex (index : Index) : Prop where
  columns_ne : index.columns ≠ []
  column_ne : ∀ column ∈ index.columns, column ≠ ""
  column_quotable : ∀ column ∈ index.columns, Quotable column.toList

structure LegibleTable (table : Table) : Prop where
  splitFirst_id : QualifiedName.splitFirst table.id = (table.schema, table.name)
  name_ne : table.name ≠ ""
  id_quotable : QuotableParts table.id.toList
  color_none : table.color = none
  columns : ∀ column ∈ table.columns, LegibleColumn column
  indexes : ∀ index ∈ table.indexes, LegibleIndex index

def LegibleEntry : TableEntry → Prop
  | .column column => LegibleColumn column
  | .indexes indexes => ∀ index ∈ indexes, LegibleIndex index
  | .note _ => True

def LegibleAttribute : Attribute → Prop
  | .default value => needsQuotes value.toList → Quotable value.toList
  | _ => True

theorem legible_of_ofName_eq_flag {name : List Char} {meaning : Attribute}
    (h : AttributeWord.ofName name = .flag meaning) : LegibleAttribute meaning := by
  unfold AttributeWord.ofName at h
  dsimp only at h
  repeat' split at h
  all_goals cases h <;> trivial

theorem legibleColumn_foldl {attributes : List Attribute}
    (h : ∀ a ∈ attributes, LegibleAttribute a) {column : Column}
    (k : LegibleColumn column) : LegibleColumn (attributes.foldl Attribute.apply column) := by
  induction attributes generalizing column with
  | nil => exact k
  | cons a attributes ih =>
    refine ih (fun b hb => h b (by simp [hb])) ?_
    have ha := h a (by simp)
    obtain ⟨hn, ht, hq, hd⟩ := k
    cases a with
    | default value =>
      refine ⟨hn, ht, hq, ?_⟩
      rintro _ ⟨⟩
      exact ha
    | _ => exact ⟨hn, ht, hq, hd⟩

theorem legibleIndex_foldl (settings : List IndexSetting) {index : Index} (h : LegibleIndex index) :
    LegibleIndex (settings.foldl IndexSetting.apply index) := by
  induction settings generalizing index with
  | nil => exact h
  | cons setting settings ih =>
    refine ih ?_
    obtain ⟨hne, hc, hq⟩ := h
    cases setting <;> exact ⟨hne, hc, hq⟩

theorem ofList_ne_empty {cs : List Char} (h : cs ≠ []) : String.ofList cs ≠ "" := by
  simpa using h

namespace Cursor

theorem legible_readAttributeAfter (start : Cursor) (name : List Char) (c : Cursor) :
    ∀ a ∈ (start.readAttributeAfter name c).value, LegibleAttribute a := by
  unfold readAttributeAfter
  split
  · next meaning hw =>
    rintro _ ⟨⟩
    exact legible_of_ofName_eq_flag hw
  · dsimp only
    split
    · rintro _ ⟨⟩
      trivial
    · simp
  · rintro _ ⟨⟩
    simpa [LegibleAttribute] using quotable_readValue _
  · rintro _ ⟨⟩
    trivial
  · simp
  · simp

theorem legible_readAttribute (c : Cursor) :
    ∀ a ∈ c.readAttribute.value, LegibleAttribute a := by
  unfold readAttribute
  dsimp only
  split
  · simp
  · exact legible_readAttributeAfter _ _ _

theorem legible_readAttributes (c : Cursor) :
    ∀ a ∈ c.readAttributes.value, LegibleAttribute a := by
  -- Induction along the reader: an entry comes from the attribute just read or from the rest.
  fun_induction readAttributes c with
  | case1 | case2 => simp
  | case3 c _ h entry entries ih =>
    intro a ha
    rcases List.mem_append.1 ha with ha | ha
    · exact legible_readAttribute _ a (by simpa using ha)
    · exact ih a ha

theorem legible_readColumnTail (c : Cursor) :
    ∀ a ∈ c.readColumnTail.value, LegibleAttribute a := by
  unfold readColumnTail readAttributeList
  dsimp only
  split
  · split <;> exact legible_readAttributes _
  · simp

theorem legible_readColumn (c : Cursor) :
    ∀ column ∈ c.readColumn.value, LegibleColumn column := by
  unfold readColumn
  dsimp only
  split
  · simp
  · next h =>
    -- Attributes only add to a column whose name and type were read.
    rintro _ ⟨⟩
    obtain ⟨hn, ht⟩ := not_or.1 h
    refine legibleColumn_foldl (legible_readColumnTail _)
      ⟨ofList_ne_empty hn, ofList_ne_empty ht, ?_, ?_⟩
    · simpa [readNameAndType] using quotable_readName c
    · simp

theorem legible_readListItems (c : Cursor) :
    ∀ name ∈ c.readListItems.1, name ≠ [] ∧ Quotable name := by
  fun_induction readListItems c with
  | case1 | case2 | case3 => simp
  | case4 c ch _ _ _ item items ih =>
    intro name hn
    dsimp only at hn
    split at hn
    · exact ih name hn
    · next hne =>
      rcases List.mem_cons.1 hn with rfl | hn
      · exact ⟨hne, quotable_readName _⟩
      · exact ih name hn

theorem legible_readIndexColumns (c : Cursor) :
    ∀ name ∈ c.readIndexColumns.1, name ≠ [] ∧ Quotable name := by
  unfold readIndexColumns
  split
  · exact legible_readListItems _
  · dsimp only
    split
    · simp
    · next hne =>
      intro name hn
      rw [List.mem_singleton.1 hn]
      exact ⟨hne, quotable_readName c⟩

theorem legible_readIndex (c : Cursor) : ∀ index ∈ c.readIndex.value, LegibleIndex index := by
  unfold readIndex
  dsimp only
  split
  · simp
  · next hne =>
    rintro _ ⟨⟩
    refine legibleIndex_foldl _ ⟨by simpa using hne, ?_, ?_⟩
    · intro column hc
      obtain ⟨name, hn, rfl⟩ := List.mem_map.1 hc
      exact ofList_ne_empty (legible_readIndexColumns c name hn).1
    · intro column hc
      obtain ⟨name, hn, rfl⟩ := List.mem_map.1 hc
      simpa using (legible_readIndexColumns c name hn).2

theorem legible_readIndexEntries (c : Cursor) :
    ∀ index ∈ c.readIndexEntries.value, LegibleIndex index := by
  fun_induction readIndexEntries c with
  | case1 | case2 => simp
  | case3 c _ h entry entries ih =>
    intro index hi
    rcases List.mem_append.1 hi with hi | hi
    · have he : index ∈ c.skipBlank.readIndexEntry.value := by simpa using hi
      unfold readIndexEntry at he
      split at he
      · simp at he
      · exact legible_readIndex _ index he
    · exact ih index hi

theorem legible_readTableEntry (c : Cursor) :
    ∀ entry ∈ c.readTableEntry.value, LegibleEntry entry := by
  unfold readTableEntry
  split
  · simp
  · split
    · rintro _ ⟨⟩
      trivial
    · split
      · rintro _ ⟨⟩
        exact legible_readIndexEntries _
      · intro entry he
        obtain ⟨column, hc, rfl⟩ := Option.map_eq_some_iff.1 he
        exact legible_readColumn c column hc

theorem legible_readTableEntries (c : Cursor) :
    ∀ entry ∈ c.readTableEntries.value, LegibleEntry entry := by
  fun_induction readTableEntries c with
  | case1 => simp
  | case2 c h entry entries ih =>
    intro e he
    rcases List.mem_append.1 he with he | he
    · exact legible_readTableEntry _ e (by simpa using he)
    · exact ih e he

theorem legible_readTableBody (start c : Cursor) :
    ∀ entry ∈ (start.readTableBody c).value, LegibleEntry entry := by
  unfold readTableBody
  split
  · dsimp only
    split <;> exact legible_readTableEntries _
  · simp

theorem legible_readTable (c : Cursor) : ∀ table ∈ c.readTable.value, LegibleTable table := by
  unfold readTable
  dsimp only
  split
  · simp
  · next hn =>
    rintro _ ⟨⟩
    have hb := legible_readTableBody c
      c.skipKeyword.skipBlank.readQualifiedName.2.skipBlank.skipAlias.skipTableSettings.next
    refine ⟨rfl, by simpa using hn, ?_, rfl, ?_, ?_⟩
    · simpa [tableOfEntries] using quotableParts_readQualifiedName _
    · intro column hc
      obtain ⟨entry, he, hec⟩ := List.mem_filterMap.1 hc
      have hl := hb entry he
      cases entry with
      | column d =>
        cases hec
        exact hl
      | _ => simp [TableEntry.column?] at hec
    · intro index hi
      obtain ⟨entry, he, hei⟩ := List.mem_flatMap.1 hi
      have hl := hb entry he
      cases entry with
      | indexes list => exact hl index hei
      | _ => simp [TableEntry.indexList] at hei

theorem legible_readEnumEntries (c : Cursor) :
    ∀ value ∈ c.readEnumEntries.value, value ≠ "" ∧ Quotable value.toList := by
  fun_induction readEnumEntries c with
  | case1 => simp
  | case2 c h entry entries ih =>
    intro value hv
    rcases List.mem_append.1 hv with hv | hv
    · have he : value ∈ c.skipBlank.readEnumEntry.value := by simpa using hv
      unfold readEnumEntry at he
      dsimp only at he
      split at he
      · simp at he
      · split at he
        · simp at he
        · next hne =>
          cases he
          exact ⟨ofList_ne_empty hne, by simpa using quotable_readName _⟩
    · exact ih value hv

theorem expressible_readEnumeration (c : Cursor) :
    ExpressibleEnumeration c.readEnumeration.value := by
  have hv : ∀ value ∈ c.readEnumeration.value.values, value ≠ "" ∧ Quotable value.toList := by
    unfold readEnumeration readEnumBody
    dsimp only
    split
    · exact legible_readEnumEntries _
    · simp
  refine ⟨?_, fun value h => (hv value h).1, fun value h => (hv value h).2⟩
  simpa [readEnumeration] using quotableParts_readQualifiedName _

theorem legible_readEndpoint (c : Cursor) : ∀ e ∈ c.readEndpoint.1,
    QuotableParts e.table.toList ∧ Quotable e.column.toList ∧ '.' ∉ e.column.toList := by
  unfold readEndpoint Endpoint.ofName?
  dsimp only
  split
  · next table column hs =>
    rintro _ ⟨⟩
    have hq := quotableParts_readQualifiedName c
    obtain ⟨hd, hn⟩ := QualifiedName.splitLast_eq_some_iff.1 hs
    rw [String.toList_ofList] at hn
    rw [hn] at hq
    refine ⟨hq.left, hq.right _ ?_, hd⟩
    rw [Text.split_eq_singleton fun ch hc => by simpa using fun k : ch = '.' => hd (k ▸ hc)]
    simp
  · simp

theorem expressible_readRelationship (c : Cursor) :
    ∀ r ∈ c.readRelationship.value, ExpressibleRelationship r := by
  unfold readRelationship
  dsimp only
  split
  · next a b ha hb =>
    rintro _ ⟨⟩
    obtain ⟨hat, hac, had⟩ := legible_readEndpoint _ a ha
    obtain ⟨hbt, hbc, hbd⟩ := legible_readEndpoint _ b hb
    exact ⟨rfl, had, hbd, hat, hac, hbt, hbc⟩
  · simp
  · simp

end Cursor

structure LegibleSegment (segment : Segment) : Prop where
  table : ∀ table ∈ segment.table?, LegibleTable table
  relationship : ∀ r ∈ segment.relationship?, ExpressibleRelationship r
  enumeration : ∀ enumeration ∈ segment.enumeration?, ExpressibleEnumeration enumeration

namespace Cursor

theorem legible_readDefinition (c : Cursor) (definition : Definition) :
    LegibleSegment (c.readDefinition definition).1 := by
  cases definition with
  | table => exact ⟨legible_readTable c, nofun, nofun⟩
  | relationship => exact ⟨nofun, expressible_readRelationship c, nofun⟩
  | enumeration =>
    refine ⟨nofun, nofun, ?_⟩
    rintro _ ⟨⟩
    exact expressible_readEnumeration c

theorem legible_segments (inStray : Bool) (c : Cursor) :
    ∀ segment ∈ c.segments inStray, LegibleSegment segment := by
  have hcomment : LegibleSegment .comment := ⟨nofun, nofun, nofun⟩
  have hstray (offset : Nat) : LegibleSegment (.stray offset) := ⟨nofun, nofun, nofun⟩
  fun_induction segments inStray c with
  | case1 => simp
  | case2 inStray c _ definition hd first ih =>
    exact List.forall_mem_cons.2 ⟨legible_readDefinition _ _, ih⟩
  | case3 inStray c _ hd hc ih => exact List.forall_mem_cons.2 ⟨hcomment, ih⟩
  | case4 c _ hd hc rest ih => exact ih
  | case5 inStray c _ hd hc rest hs ih => exact List.forall_mem_cons.2 ⟨hstray _, ih⟩

end Cursor

/-- A schema that some text can be read as. -/
structure LegibleSchema (schema : Schema) : Prop where
  tables : ∀ table ∈ schema.tables, LegibleTable table
  relationships : ∀ r ∈ schema.relationships, ExpressibleRelationship r
  enumerations : ∀ enumeration ∈ schema.enumerations, ExpressibleEnumeration enumeration

theorem legible_read (source : String) : LegibleSchema (read source).schema := by
  have hs := Cursor.legible_segments false (Cursor.ofPosition source.toList 0)
  refine ⟨?_, ?_, ?_⟩
  · intro table ht
    obtain ⟨segment, hm, he⟩ := List.mem_filterMap.1 ht
    exact (hs segment hm).table table he
  · intro r hr
    obtain ⟨segment, hm, he⟩ := List.mem_filterMap.1 hr
    exact (hs segment hm).relationship r he
  · intro enumeration hn
    obtain ⟨segment, hm, he⟩ := List.mem_filterMap.1 hn
    exact (hs segment hm).enumeration enumeration he

end SchemaText.Diagram
