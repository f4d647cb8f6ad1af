import SchemaText.Sql.Script
import SchemaText.Proofs.Pattern.Found
import SchemaText.Proofs.Sql.Name
import SchemaText.Proofs.Text.Letter
/-! What schemas can be read from SQL, whatever the text is. -/

namespace SchemaText.Sql

open Pattern

def Unmarked (name : String) : Prop :=
  '"' ∉ name.toList

def Lowered (text : String) : Prop :=
  text.toList.map Char.toLower = text.toList

structure ExtractedColumn (column : Column) : Prop where
  name_unmarked : Unmarked column.name
  type_ne : column.type ≠ ""
  type_lowered : Lowered column.type
  note_unmarked : ∀ text ∈ column.note, Unmarked text

structure ExtractedIndex (index : Index) : Prop where
  column_unmarked : ∀ column ∈ index.columns, Unmarked column
  name_unmarked : ∀ name ∈ index.name, Unmarked name

structure ExtractedTable (table : Table) : Prop where
  splitFirst_id : QualifiedName.splitFirst table.id = (table.schema, table.name)
  id_unmarked : Unmarked table.id
  note_none : table.note = none
  color_none : table.color = none
  columns : ∀ column ∈ table.columns, ExtractedColumn column
  indexes : ∀ index ∈ table.indexes, ExtractedIndex index

structure ExtractedRelationship (r : Relationship) : Prop where
  label_none : r.label = none
  manyToOne : r.cardinality = .manyToOne
  fromTable_unmarked : Unmarked r.fromTable
  fromColumn_unmarked : Unmarked r.fromColumn
  toTable_unmarked : Unmarked r.toTable
  toColumn_unmarked : Unmarked r.toColumn

theorem unmarked_clean (written : List Char) :
    Unmarked (String.ofList (Identifier.clean written)) := by
  intro h
  rw [String.toList_ofList] at h
  exact absurd (Identifier.isEnclosing_of_mem_clean h) (by decide)

theorem unmarked_of_mem_cleanList {written : List Char} {name : String}
    (h : name ∈ (Identifier.cleanList written).map String.ofList) : Unmarked name := by
  obtain ⟨cs, hc, rfl⟩ := List.mem_map.1 h
  obtain ⟨part, _, rfl⟩ := List.mem_map.1 hc
  exact unmarked_clean part

theorem extracted_foreignKeys {table : String} (h : Unmarked table)
    (columns target targetColumns : List Char) (offset : Nat) :
    ∀ r ∈ (foreignKeys table columns target targetColumns offset).1, ExtractedRelationship r := by
  unfold foreignKeys
  dsimp only
  split
  · simp
  · intro r hr
    rw [← List.map_uncurry_zip_eq_zipWith] at hr
    obtain ⟨⟨source, other⟩, hz, rfl⟩ := List.mem_map.1 hr
    obtain ⟨hs, ho⟩ := List.of_mem_zip hz
    exact ⟨rfl, rfl, h, unmarked_of_mem_cleanList (List.mem_map_of_mem hs), unmarked_clean target,
      unmarked_of_mem_cleanList (List.mem_map_of_mem ho)⟩

namespace ColumnClause

theorem type_ne_nil {text : List Char} {m : Match} (h : definition.matchStart text = some m) :
    m.text "type" ≠ [] := by
  -- The word of the type is met, and later groups leave its capture alone.
  obtain ⟨t, ht, rfl⟩ := meets_of_matchStart h
  obtain ⟨u, ⟨v, ⟨w, _, x, hx, rfl⟩, hgap⟩, htail⟩ := ht
  obtain ⟨y, hy, hz⟩ := hx
  obtain ⟨word, hw, hne, _⟩ := oneOrMore_meets hy
  obtain ⟨arguments, ha⟩ := Meets.exists_spans hz
  rw [text_matchOf, htail.text?_eq (by decide), hgap.text?_eq (by decide),
    Spot.text?_capture (hw.trans ha)]
  simp [hne]

theorem lowerLetter_ne_nil (c : Char) : Text.lowerLetter c ≠ [] := by
  unfold Text.lowerLetter
  repeat' split
  all_goals simp

theorem lower_ne_nil {cs : List Char} (h : cs ≠ []) : Text.lower cs ≠ [] := by
  obtain ⟨c, rest, rfl⟩ := List.exists_cons_of_ne_nil h
  unfold Text.lower Text.lowerAfter
  dsimp only
  repeat' split
  all_goals simp [lowerLetter_ne_nil]

theorem note_unmarked {text : List Char} {m : Match} (h : comment.search text = some m) :
    '"' ∉ m.text "note" := by
  obtain ⟨s, hs, t, ht, rfl⟩ := meets_of_search h
  obtain ⟨u, ⟨v, _, w, hw, rfl⟩, hlast⟩ := ht
  obtain ⟨note, hn, _, ha⟩ := oneOrMore_meets hw
  rw [text_matchOf, Meets.text?_eq hlast (by decide), Spot.text?_capture hn]
  intro hm
  exact absurd (ha _ hm) (by decide)

end ColumnClause

theorem extracted_readColumn (table : String) (clause : Clause) :
    ∀ column ∈ (readColumn table clause).column, ExtractedColumn column := by
  unfold readColumn
  split
  · simp
  · next m hm =>
    rintro _ ⟨⟩
    refine ⟨unmarked_clean _, ?_, ?_, ?_⟩
    · simpa [ColumnClause.columnOf] using
        ColumnClause.lower_ne_nil (ColumnClause.type_ne_nil hm)
    · simpa [ColumnClause.columnOf, Lowered] using Text.map_toLower_lower (m.text "type")
    · intro text ht
      obtain ⟨note, hn, rfl⟩ := Option.map_eq_some_iff.1 ht
      obtain ⟨found, hf, rfl⟩ := Option.map_eq_some_iff.1 hn
      simpa [Unmarked] using ColumnClause.note_unmarked hf

theorem extracted_readColumn_relationships {table : String} (h : Unmarked table)
    (clause : Clause) :
    ∀ r ∈ (readColumn table clause).relationships, ExtractedRelationship r := by
  unfold readColumn
  split
  · simp
  · dsimp only
    unfold ColumnClause.referencesOf
    split
    · exact extracted_foreignKeys h _ _ _ _
    · simp

namespace Draft

structure Extracted (draft : Draft) : Prop where
  table : ExtractedTable draft.table
  relationships : ∀ r ∈ draft.relationships, ExtractedRelationship r

theorem extracted_ofId {id : String} (h : Unmarked id) : (ofId id).Extracted :=
  ⟨⟨rfl, h, rfl, rfl, nofun, nofun⟩, nofun⟩

theorem Extracted.withColumns {draft : Draft} (h : draft.Extracted) {columns : List Column}
    (k : ∀ column ∈ columns, ExtractedColumn column) : (draft.withColumns columns).Extracted := by
  obtain ⟨⟨hid, hu, hn, hc, _, hi⟩, hr⟩ := h
  exact ⟨⟨hid, hu, hn, hc, k, hi⟩, hr⟩

theorem Extracted.addIndex {draft : Draft} (h : draft.Extracted) {index : Index}
    (k : ExtractedIndex index) : (draft.addIndex index).Extracted := by
  obtain ⟨⟨hid, hu, hn, hc, hcs, hi⟩, hr⟩ := h
  refine ⟨⟨hid, hu, hn, hc, hcs, ?_⟩, hr⟩
  intro i hm
  rcases List.mem_append.1 hm with hm | hm
  · exact hi i hm
  · rwa [List.mem_singleton.1 hm]

theorem Extracted.addRelationships {draft : Draft} (h : draft.Extracted)
    {relationships : List Relationship} (k : ∀ r ∈ relationships, ExtractedRelationship r) :
    (draft.addRelationships relationships).Extracted := by
  refine ⟨h.table, fun r hr => ?_⟩
  exact (List.mem_append.1 hr).elim (h.relationships r) (k r)

theorem extracted_markKey? {name : String} {columns marked : List Column}
    (h : ∀ column ∈ columns, ExtractedColumn column) (k : markKey? name columns = some marked) :
    ∀ column ∈ marked, ExtractedColumn column := by
  induction columns generalizing marked with
  | nil => simp [markKey?] at k
  | cons column columns ih =>
    obtain ⟨hc, hs⟩ := List.forall_mem_cons.1 h
    unfold markKey? at k
    split at k
    · cases k
      exact List.forall_mem_cons.2 ⟨⟨hc.1, hc.2, hc.3, hc.4⟩, hs⟩
    · obtain ⟨others, ho, rfl⟩ := Option.map_eq_some_iff.1 k
      exact List.forall_mem_cons.2 ⟨hc, ih hs ho⟩

theorem extracted_markKeys (offset : Nat) (names : List String) {columns : List Column}
    (h : ∀ column ∈ columns, ExtractedColumn column) :
    ∀ column ∈ (markKeys offset names columns).1, ExtractedColumn column := by
  induction names generalizing columns with
  | nil => exact h
  | cons name names ih =>
    unfold markKeys
    split
    · next marked hm => exact ih (extracted_markKey? h hm)
    · exact ih h

theorem unmarked_columnNames (m : Match) : ∀ name ∈ columnNames m, Unmarked name :=
  fun _ h => unmarked_of_mem_cleanList h

theorem unmarked_map_cleanName (written : Option (List Char)) :
    ∀ name ∈ written.map cleanName, Unmarked name := by
  intro name hn
  obtain ⟨cs, _, rfl⟩ := Option.map_eq_some_iff.1 hn
  exact unmarked_clean cs

theorem Extracted.applyConstraint {draft : Draft} (h : draft.Extracted) (clause : Clause) :
    (draft.applyConstraint clause).1.Extracted := by
  unfold Draft.applyConstraint
  split
  · exact h.withColumns (extracted_markKeys _ _ h.table.columns)
  · split
    · exact h.addRelationships (extracted_foreignKeys h.table.id_unmarked _ _ _ _)
    · split
      · exact h.addIndex ⟨unmarked_columnNames _, unmarked_map_cleanName _⟩
      · split
        · exact h.addIndex ⟨unmarked_columnNames _, unmarked_map_cleanName _⟩
        · exact h

theorem Extracted.applyColumn {draft : Draft} (h : draft.Extracted) (clause : Clause) :
    (draft.applyColumn clause).1.Extracted := by
  have hc := extracted_readColumn draft.table.id clause
  have hr := extracted_readColumn_relationships h.table.id_unmarked clause
  unfold Draft.applyColumn
  dsimp only
  refine Extracted.addRelationships ?_ hr
  cases hcol : (readColumn draft.table.id clause).column with
  | none => exact h
  | some column =>
    refine h.withColumns fun d hd => ?_
    rcases List.mem_append.1 hd with hd | hd
    · exact h.table.columns d hd
    · rw [List.mem_singleton.1 hd]
      exact hc column hcol

theorem Extracted.applyClauses {draft : Draft} (h : draft.Extracted) (clauses : List Clause) :
    (draft.applyClauses clauses).1.Extracted := by
  induction clauses generalizing draft with
  | nil => exact h
  | cons clause clauses ih =>
    unfold Draft.applyClauses
    split
    · exact ih h
    · refine ih ?_
      unfold applyClause
      split
      · exact h.applyConstraint _
      · exact h.applyColumn _

end Draft

theorem mem_putTable {table t : Table} {tables : List Table} (h : t ∈ putTable table tables) :
    t = table ∨ t ∈ tables := by
  induction tables with
  | nil => exact .inl (List.mem_singleton.1 h)
  | cons first tables ih =>
    unfold putTable at h
    split at h
    · exact (List.mem_cons.1 h).imp_right (List.mem_cons_of_mem _)
    · rcases List.mem_cons.1 h with rfl | h
      · exact .inr List.mem_cons_self
      · exact (ih h).imp_right (List.mem_cons_of_mem _)

theorem ids_putTable (table : Table) (tables : List Table) :
    (putTable table tables).map Table.id =
      if table.id ∈ tables.map Table.id then tables.map Table.id
      else tables.map Table.id ++ [table.id] := by
  induction tables with
  | nil => rfl
  | cons first tables ih =>
    unfold putTable
    split
    · next he => simp [he]
    · next he =>
      rw [List.map_cons, ih]
      split <;> simp_all [eq_comm]

theorem nodup_putTable {table : Table} {tables : List Table} (h : (tables.map Table.id).Nodup) :
    ((putTable table tables).map Table.id).Nodup := by
  rw [ids_putTable]
  split
  · exact h
  · next hn =>
    rw [List.nodup_append]
    exact ⟨h, by simp, fun a ha b hb => by rw [List.mem_singleton.1 hb]; rintro rfl; exact hn ha⟩

theorem ids_addIndex? {id : String} {index : Index} {tables changed : List Table}
    (h : addIndex? id index tables = some changed) :
    changed.map Table.id = tables.map Table.id := by
  induction tables generalizing changed with
  | nil => simp [addIndex?] at h
  | cons first tables ih =>
    unfold addIndex? at h
    split at h
    · cases h
      rfl
    · obtain ⟨others, ho, rfl⟩ := Option.map_eq_some_iff.1 h
      rw [List.map_cons, List.map_cons, ih ho]

theorem addIndex?_eq {id : String} (index : Index) {tables : List Table}
    (h : (tables.map Table.id).Nodup) (k : id ∈ tables.map Table.id) :
    addIndex? id index tables = some (tables.map fun table =>
      if table.id = id then { table with indexes := table.indexes ++ [index] } else table) := by
  induction tables with
  | nil => simp at k
  | cons first tables ih =>
    obtain ⟨hnot, hnodup⟩ := List.nodup_cons.1 h
    unfold addIndex?
    by_cases hf : first.id = id
    · have hother : tables.map (fun table =>
          if table.id = id then { table with indexes := table.indexes ++ [index] } else table) =
          tables := by
        rw [List.map_congr_left fun table ht => if_neg fun he => hnot (by
          rw [hf, ← he]
          exact List.mem_map_of_mem ht), List.map_id']
      rw [if_pos hf, List.map_cons, if_pos hf, hother]
    · have hin : id ∈ tables.map Table.id := by
        rcases List.mem_cons.1 k with hk | hk
        · exact absurd hk.symm hf
        · exact hk
      rw [if_neg hf, ih hnodup hin, List.map_cons, if_neg hf]
      rfl

theorem ExtractedTable.addIndex {table : Table} (h : ExtractedTable table) {index : Index}
    (k : ExtractedIndex index) :
    ExtractedTable { table with indexes := table.indexes ++ [index] } := by
  refine ⟨h.splitFirst_id, h.id_unmarked, h.note_none, h.color_none, h.columns, fun i hm => ?_⟩
  rcases List.mem_append.1 hm with hm | hm
  · exact h.indexes i hm
  · rwa [List.mem_singleton.1 hm]

theorem extracted_addIndex? {id : String} {index : Index} (hi : ExtractedIndex index)
    {tables changed : List Table} (h : ∀ table ∈ tables, ExtractedTable table)
    (k : addIndex? id index tables = some changed) : ∀ table ∈ changed, ExtractedTable table := by
  induction tables generalizing changed with
  | nil => simp [addIndex?] at k
  | cons first tables ih =>
    obtain ⟨hf, hs⟩ := List.forall_mem_cons.1 h
    unfold addIndex? at k
    split at k
    · cases k
      exact List.forall_mem_cons.2 ⟨hf.addIndex hi, hs⟩
    · obtain ⟨others, ho, rfl⟩ := Option.map_eq_some_iff.1 k
      exact List.forall_mem_cons.2 ⟨hf, ih hs ho⟩

namespace Progress

structure Extracted (progress : Progress) : Prop where
  tables : ∀ table ∈ progress.tables, ExtractedTable table
  relationships : ∀ r ∈ progress.relationships, ExtractedRelationship r
  ids_nodup : (progress.tables.map Table.id).Nodup

theorem extracted_empty : Extracted {} :=
  ⟨by simp, by simp, List.nodup_nil⟩

theorem Extracted.addRelationships {progress : Progress} (h : progress.Extracted)
    {relationships : List Relationship} (k : ∀ r ∈ relationships, ExtractedRelationship r)
    (diagnostics : List Diagnostic) :
    Extracted
      { progress.report diagnostics with
        relationships := progress.relationships ++ relationships } := by
  refine ⟨h.tables, fun r hr => ?_, h.ids_nodup⟩
  exact (List.mem_append.1 hr).elim (h.relationships r) (k r)

theorem extracted_draftOf (m : Match) : (draftOf m).1.Extracted :=
  (Draft.extracted_ofId (unmarked_clean _)).applyClauses _

theorem Extracted.addTable {progress : Progress} (h : progress.Extracted) (m : Match) :
    (progress.addTable m).Extracted := by
  have hd := extracted_draftOf m
  have hr := h.addRelationships hd.relationships (draftOf m).2
  unfold Progress.addTable
  dsimp only
  -- A table without columns is left out; any other takes the place of the one with its id.
  split
  · exact ⟨hr.tables, hr.relationships, hr.ids_nodup⟩
  · refine ⟨fun table ht => ?_, hr.relationships, nodup_putTable h.ids_nodup⟩
    rcases mem_putTable ht with rfl | ht
    · exact hd.table
    · exact h.tables table ht

theorem Extracted.addIndex {progress : Progress} (h : progress.Extracted) (m : Match) :
    (progress.addIndex m).Extracted := by
  unfold Progress.addIndex
  dsimp only
  split
  · next tables ht =>
    have hi : ExtractedIndex
        { columns := Draft.columnNames m, unique := (m.text? "unique").isSome
          name := (m.text? "name").map Draft.cleanName } :=
      ⟨Draft.unmarked_columnNames m, Draft.unmarked_map_cleanName _⟩
    exact ⟨extracted_addIndex? hi h.tables ht, h.relationships,
      by rw [ids_addIndex? ht]; exact h.ids_nodup⟩
  · exact ⟨h.tables, h.relationships, h.ids_nodup⟩

theorem Extracted.addForeignKey {progress : Progress} (h : progress.Extracted) (m : Match) :
    (progress.addForeignKey m).Extracted :=
  h.addRelationships (extracted_foreignKeys (unmarked_clean _) _ _ _ _) _

theorem Extracted.foldl {step : Progress → Match → Progress}
    (h : ∀ {progress : Progress}, progress.Extracted → ∀ m, (step progress m).Extracted)
    {progress : Progress} (k : progress.Extracted) (found : List Match) :
    (found.foldl step progress).Extracted := by
  induction found generalizing progress with
  | nil => exact k
  | cons m found ih => exact ih (h k m)

end Progress

theorem Statements.extracted_progress (statements : Statements) : statements.progress.Extracted :=
  Progress.Extracted.foldl Progress.Extracted.addForeignKey
    (Progress.Extracted.foldl Progress.Extracted.addIndex
      (Progress.Extracted.foldl Progress.Extracted.addTable Progress.extracted_empty _) _) _

structure ExtractedSchema (schema : Schema) : Prop where
  tables : ∀ table ∈ schema.tables, ExtractedTable table
  relationships : ∀ r ∈ schema.relationships, ExtractedRelationship r
  enumerations : ∀ enumeration ∈ schema.enumerations, Unmarked enumeration.name
  ids_nodup : (schema.tables.map Table.id).Nodup

theorem extracted_read (sql : String) : ExtractedSchema (read sql).schema := by
  have hp := (Statements.ofText (Comment.strip sql.toList)).extracted_progress
  refine ⟨hp.tables, hp.relationships, fun enumeration he => ?_, hp.ids_nodup⟩
  obtain ⟨m, _, rfl⟩ := List.mem_map.1 he
  exact unmarked_clean _

end SchemaText.Sql
