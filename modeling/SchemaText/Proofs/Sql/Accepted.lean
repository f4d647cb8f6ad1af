import Mathlib.Data.List.Induction
import SchemaText.Proofs.Sql.Extracted
import SchemaText.Proofs.Sql.Report
/-! The tables of an SQL text: each stands where its id was first defined, with the content of the
last definition and the indexes that statements of their own add to it. -/

namespace SchemaText.Sql

open Pattern

section Definitions

def definedTable (m : Match) : Table :=
  (Progress.draftOf m).1.table

def isAccepted (m : Match) : Bool :=
  !(definedTable m).columns.isEmpty

def acceptedIds (found : List Match) : List String :=
  (found.filter isAccepted).map fun m => (definedTable m).id

def acceptedFor (id : String) (found : List Match) : List Match :=
  found.filter fun m => isAccepted m && (definedTable m).id == id

def definedIndex (m : Match) : Index where
  columns := Draft.columnNames m
  unique := (m.text? "unique").isSome
  name := (m.text? "name").map Draft.cleanName

def indexesOn (id : String) (found : List Match) : List Index :=
  (found.filter fun m => Draft.cleanName (m.text "table") == id).map definedIndex

def definitionReport (earlier : List Match) (m : Match) : List Diagnostic :=
  if !isAccepted m then [Fault.tableWithoutColumns.diagnostic m.start]
  else if acceptedFor (definedTable m).id earlier = [] then []
  else [(Fault.tableReplaced (definedTable m).id).diagnostic m.start]

def definitionReports : (earlier : List Match) → List Match → List Diagnostic
  | _, [] => []
  | earlier, m :: found =>
    definitionReport earlier m ++ definitionReports (earlier ++ [m]) found

def isTableReport (diagnostic : Diagnostic) : Bool :=
  diagnostic.construct == .table

end Definitions

section Lists

theorem mem_acceptedIds {id : String} {found : List Match} :
    id ∈ acceptedIds found ↔ acceptedFor id found ≠ [] := by
  simp [acceptedIds, acceptedFor, List.filter_eq_nil_iff, and_assoc]

theorem acceptedIds_concat (found : List Match) (m : Match) :
    acceptedIds (found ++ [m]) =
      acceptedIds found ++ if isAccepted m then [(definedTable m).id] else [] := by
  by_cases h : isAccepted m <;> simp [acceptedIds, h]

theorem acceptedFor_concat (id : String) (found : List Match) (m : Match) :
    acceptedFor id (found ++ [m]) =
      acceptedFor id found ++ if isAccepted m ∧ (definedTable m).id = id then [m] else [] := by
  by_cases h : isAccepted m <;> by_cases k : (definedTable m).id = id <;>
    simp [acceptedFor, h, k]

theorem eraseDups_concat (ids : List String) (id : String) :
    (ids ++ [id]).eraseDups = ids.eraseDups ++ if id ∈ ids then [] else [id] := by
  by_cases h : id ∈ ids <;> simp [List.eraseDups_append, List.eraseDups_cons, List.removeAll, h]

theorem definitionReports_concat (earlier found : List Match) (m : Match) :
    definitionReports earlier (found ++ [m]) =
      definitionReports earlier found ++ definitionReport (earlier ++ found) m := by
  induction found generalizing earlier with
  | nil => simp [definitionReports]
  | cons first found ih => simp [definitionReports, ih, List.append_assoc]

theorem offset_of_mem_definitionReport {earlier : List Match} {m : Match} {d : Diagnostic}
    (h : d ∈ definitionReport earlier m) : d.offset = m.start := by
  unfold definitionReport at h
  split at h
  · rw [List.mem_singleton.1 h]
    rfl
  · split at h
    · cases h
    · rw [List.mem_singleton.1 h]
      rfl

theorem exists_of_mem_definitionReports {earlier found : List Match} {d : Diagnostic}
    (h : d ∈ definitionReports earlier found) : ∃ m ∈ found, d.offset = m.start := by
  induction found generalizing earlier with
  | nil => cases h
  | cons m found ih =>
    rcases List.mem_append.1 h with h | h
    · exact ⟨m, List.mem_cons_self, offset_of_mem_definitionReport h⟩
    · obtain ⟨n, hn, hd⟩ := ih h
      exact ⟨n, List.mem_cons_of_mem m hn, hd⟩

theorem pairwise_definitionReports {earlier found : List Match}
    (h : found.Pairwise fun m n => m.start < n.start) :
    (definitionReports earlier found).Pairwise fun a b => a.offset ≤ b.offset := by
  induction found generalizing earlier with
  | nil => exact .nil
  | cons m found ih =>
    obtain ⟨hm, hr⟩ := List.pairwise_cons.1 h
    refine List.pairwise_append.2 ⟨?_, ih hr, fun a ha b hb => ?_⟩
    · refine List.pairwise_of_forall_mem_list fun a ha b hb => Nat.le_of_eq ?_
      rw [offset_of_mem_definitionReport ha, offset_of_mem_definitionReport hb]
    · obtain ⟨n, hn, hb⟩ := exists_of_mem_definitionReports hb
      rw [offset_of_mem_definitionReport ha, hb]
      exact Nat.le_of_lt (hm n hn)

end Lists

section Tables

theorem eq_or_of_mem_putTable {table t : Table} {tables : List Table}
    (h : (tables.map Table.id).Nodup) (k : t ∈ putTable table tables) :
    t = table ∨ t ∈ tables ∧ t.id ≠ table.id := by
  induction tables with
  | nil => exact .inl (List.mem_singleton.1 k)
  | cons first tables ih =>
    obtain ⟨hnot, hnodup⟩ := List.nodup_cons.1 h
    unfold putTable at k
    split at k
    · next he =>
      refine (List.mem_cons.1 k).imp_right fun hm => ⟨List.mem_cons_of_mem _ hm, fun hid => hnot ?_⟩
      rw [he, ← hid]
      exact List.mem_map_of_mem hm
    · next he =>
      rcases List.mem_cons.1 k with rfl | k
      · exact .inr ⟨List.mem_cons_self, he⟩
      · exact (ih hnodup k).imp_right (And.imp_left (List.mem_cons_of_mem first))

theorem tables_addTable (progress : Progress) (m : Match) :
    (progress.addTable m).tables =
      if isAccepted m then putTable (definedTable m) progress.tables else progress.tables := by
  unfold Progress.addTable isAccepted definedTable
  dsimp only
  split <;> simp_all [Progress.report]

theorem filter_draftOf (m : Match) : (Progress.draftOf m).2.filter isTableReport = [] := by
  rw [List.filter_eq_nil_iff]
  intro d hd
  obtain ⟨clause, _, _, hr⟩ := Draft.exists_reportsClause_of_mem hd
  rcases hr.construct with h | h <;> simp [isTableReport, h]

theorem filter_addTable {progress : Progress} {earlier : List Match}
    (h : ∀ id, id ∈ progress.tables.map Table.id ↔ acceptedFor id earlier ≠ []) (m : Match) :
    (progress.addTable m).diagnostics.filter isTableReport =
      progress.diagnostics.filter isTableReport ++ definitionReport earlier m := by
  have hknown : progress.tables.any (fun t => t.id == (definedTable m).id) =
      decide (acceptedFor (definedTable m).id earlier ≠ []) := by
    rw [Bool.eq_iff_iff, List.any_eq_true, decide_eq_true_eq, ← h, List.mem_map]
    simp only [beq_iff_eq]
  unfold Progress.addTable definitionReport isAccepted
  dsimp only [Progress.report]
  rw [show (Progress.draftOf m).1.table = definedTable m from rfl, hknown]
  by_cases hc : (definedTable m).columns.isEmpty
  · simp [hc, filter_draftOf, isTableReport, Fault.diagnostic, Fault.construct]
  · by_cases hk : acceptedFor (definedTable m).id earlier = []
    · simp [hc, hk, filter_draftOf]
    · simp [hc, hk, filter_draftOf, isTableReport, Fault.diagnostic, Fault.construct]

structure Defines (found : List Match) (progress : Progress) : Prop where
  ids : progress.tables.map Table.id = (acceptedIds found).eraseDups
  ids_nodup : (progress.tables.map Table.id).Nodup
  content : ∀ t ∈ progress.tables, (acceptedFor t.id found).getLast?.map definedTable = some t
  reports : progress.diagnostics.filter isTableReport = definitionReports [] found

theorem Defines.mem_ids_iff {found : List Match} {progress : Progress} (h : Defines found progress)
    (id : String) : id ∈ progress.tables.map Table.id ↔ acceptedFor id found ≠ [] := by
  rw [h.ids, List.mem_eraseDups, mem_acceptedIds]

theorem defines_nil : Defines [] {} :=
  ⟨rfl, List.nodup_nil, nofun, rfl⟩

theorem Defines.addTable {found : List Match} {progress : Progress} (h : Defines found progress)
    (m : Match) : Defines (found ++ [m]) (progress.addTable m) := by
  have hreports : (progress.addTable m).diagnostics.filter isTableReport =
      definitionReports [] (found ++ [m]) := by
    rw [filter_addTable h.mem_ids_iff, h.reports, definitionReports_concat, List.nil_append]
  have htables := tables_addTable progress m
  by_cases ha : isAccepted m
  · rw [if_pos ha] at htables
    refine ⟨?_, ?_, fun t ht => ?_, hreports⟩
    · rw [htables, ids_putTable, acceptedIds_concat, if_pos ha, eraseDups_concat, h.ids]
      simp only [List.mem_eraseDups]
      split <;> simp
    · rw [htables]
      exact nodup_putTable h.ids_nodup
    · rw [htables] at ht
      rw [acceptedFor_concat]
      rcases eq_or_of_mem_putTable h.ids_nodup ht with rfl | ⟨hm, hid⟩
      · rw [if_pos ⟨ha, rfl⟩, List.getLast?_concat, Option.map_some]
      · rw [if_neg fun hk => hid hk.2.symm, List.append_nil]
        exact h.content t hm
  · rw [if_neg ha] at htables
    refine ⟨?_, by rw [htables]; exact h.ids_nodup, fun t ht => ?_, hreports⟩
    · rw [htables, acceptedIds_concat, if_neg ha, List.append_nil, h.ids]
    · rw [htables] at ht
      rw [acceptedFor_concat, if_neg fun hk => ha hk.1, List.append_nil]
      exact h.content t ht

theorem defines_foldl_addTable (found : List Match) :
    Defines found (found.foldl Progress.addTable {}) := by
  induction found using List.reverseRecOn with
  | nil => exact defines_nil
  | append_singleton found m ih =>
    rw [List.foldl_append]
    exact ih.addTable m

end Tables

section Indexes

theorem addIndex?_eq_none {id : String} (index : Index) {tables : List Table}
    (h : id ∉ tables.map Table.id) : addIndex? id index tables = none := by
  induction tables with
  | nil => rfl
  | cons first tables ih =>
    obtain ⟨hne, hnot⟩ := not_or.1 (mt List.mem_cons.2 h)
    rw [addIndex?, if_neg (Ne.symm hne), ih hnot]
    rfl

def withIndexesOn (found : List Match) (tables : List Table) : List Table :=
  tables.map fun t => { t with indexes := t.indexes ++ indexesOn t.id found }

theorem ids_withIndexesOn (found : List Match) (tables : List Table) :
    (withIndexesOn found tables).map Table.id = tables.map Table.id := by
  rw [withIndexesOn, List.map_map]
  rfl

theorem withIndexesOn_concat (found : List Match) (m : Match) (tables : List Table) :
    withIndexesOn (found ++ [m]) tables = withIndexesOn [m] (withIndexesOn found tables) := by
  unfold withIndexesOn
  rw [List.map_map]
  refine List.map_congr_left fun t _ => ?_
  simp [indexesOn]

theorem tables_addIndex {progress : Progress} (h : (progress.tables.map Table.id).Nodup)
    (m : Match) : (progress.addIndex m).tables = withIndexesOn [m] progress.tables := by
  have hone (t : Table) : indexesOn t.id [m] =
      if t.id = Draft.cleanName (m.text "table") then [definedIndex m] else [] := by
    by_cases he : Draft.cleanName (m.text "table") = t.id
    · simp [indexesOn, he]
    · simp [indexesOn, he, Ne.symm he]
  unfold Progress.addIndex withIndexesOn
  simp only [hone]
  by_cases hid : Draft.cleanName (m.text "table") ∈ progress.tables.map Table.id
  · rw [addIndex?_eq _ h hid]
    refine List.map_congr_left fun t _ => ?_
    split <;> simp [definedIndex]
  · rw [addIndex?_eq_none _ hid]
    refine (List.map_id' _).symm.trans (List.map_congr_left fun t ht => ?_)
    have hne : t.id ≠ Draft.cleanName (m.text "table") := fun he =>
      hid (he ▸ List.mem_map_of_mem ht)
    rw [if_neg hne, List.append_nil]

theorem filter_addIndex (progress : Progress) (m : Match) :
    (progress.addIndex m).diagnostics.filter isTableReport =
      progress.diagnostics.filter isTableReport := by
  unfold Progress.addIndex
  dsimp only
  split
  · rfl
  · simp [Progress.report, isTableReport, Fault.diagnostic, Fault.construct]

theorem foldl_addIndex_tables (found : List Match) {progress : Progress}
    (h : (progress.tables.map Table.id).Nodup) :
    (found.foldl Progress.addIndex progress).tables = withIndexesOn found progress.tables ∧
      (found.foldl Progress.addIndex progress).diagnostics.filter isTableReport =
        progress.diagnostics.filter isTableReport := by
  induction found using List.reverseRecOn with
  | nil => simp [withIndexesOn, indexesOn]
  | append_singleton found m ih =>
    obtain ⟨htables, hreports⟩ := ih
    have hnodup : ((found.foldl Progress.addIndex progress).tables.map Table.id).Nodup := by
      rwa [htables, ids_withIndexesOn]
    rw [List.foldl_append, List.foldl_cons, List.foldl_nil, tables_addIndex hnodup, htables,
      withIndexesOn_concat, filter_addIndex, hreports]
    exact ⟨rfl, rfl⟩

end Indexes

theorem filter_foreignKeys (table : String) (columns target targetColumns : List Char)
    (offset : Nat) :
    (foreignKeys table columns target targetColumns offset).2.filter isTableReport = [] := by
  rw [List.filter_eq_nil_iff]
  intro d hd
  rcases (reportsClause_foreignKeys _ _ _ _ _ d hd).construct with h | h <;> simp [isTableReport, h]

theorem filter_addForeignKey (progress : Progress) (m : Match) :
    (progress.addForeignKey m).diagnostics.filter isTableReport =
      progress.diagnostics.filter isTableReport := by
  change (progress.diagnostics ++ _).filter isTableReport = _
  rw [List.filter_append, filter_foreignKeys, List.append_nil]

theorem foldl_addForeignKey_tables (found : List Match) (progress : Progress) :
    (found.foldl Progress.addForeignKey progress).tables = progress.tables ∧
      (found.foldl Progress.addForeignKey progress).diagnostics.filter isTableReport =
        progress.diagnostics.filter isTableReport := by
  induction found generalizing progress with
  | nil => exact ⟨rfl, rfl⟩
  | cons m found ih =>
    obtain ⟨htables, hreports⟩ := ih (progress.addForeignKey m)
    exact ⟨htables, hreports.trans (filter_addForeignKey progress m)⟩

theorem filter_reportUnrecognised (covered : List (Nat × Nat)) (text : List Char) :
    (reportUnrecognised covered text).filter isTableReport = [] := by
  rw [List.filter_eq_nil_iff]
  intro d hd
  obtain ⟨stretch, _, hs⟩ := List.mem_flatMap.1 hd
  unfold reportStretch at hs
  dsimp only at hs
  split at hs
  · cases hs
  · simp [List.mem_singleton.1 hs, isTableReport, Fault.diagnostic, Fault.construct]

/-- What a reading is in terms of the table statements and the index statements of its text. -/
structure SettledTables (defined indexed : List Match) (reading : Reading) : Prop where
  ids_nodup : (reading.schema.tables.map Table.id).Nodup
  columns_ne : ∀ t ∈ reading.schema.tables, t.columns ≠ []
  splitFirst_id :
    ∀ t ∈ reading.schema.tables, QualifiedName.splitFirst t.id = (t.schema, t.name)
  note_none : ∀ t ∈ reading.schema.tables, t.note = none
  color_none : ∀ t ∈ reading.schema.tables, t.color = none
  type_ne : ∀ t ∈ reading.schema.tables, ∀ column ∈ t.columns, column.type ≠ ""
  type_lowered : ∀ t ∈ reading.schema.tables, ∀ column ∈ t.columns, Lowered column.type
  manyToOne : ∀ r ∈ reading.schema.relationships, r.cardinality = .manyToOne
  label_none : ∀ r ∈ reading.schema.relationships, r.label = none
  ids : reading.schema.tables.map Table.id = (acceptedIds defined).eraseDups
  content : ∀ t ∈ reading.schema.tables, ∃ m,
    (acceptedFor t.id defined).getLast? = some m ∧
    t.columns = (definedTable m).columns ∧
    t.indexes = (definedTable m).indexes ++ indexesOn t.id indexed
  reports : reading.diagnostics.filter isTableReport = definitionReports [] defined

theorem tables_progress (statements : Statements) :
    statements.progress.tables =
        withIndexesOn statements.indexes (statements.tables.foldl Progress.addTable {}).tables ∧
      statements.progress.diagnostics.filter isTableReport =
        definitionReports [] statements.tables := by
  have hd := defines_foldl_addTable statements.tables
  obtain ⟨hindexes, hindexReports⟩ := foldl_addIndex_tables statements.indexes hd.ids_nodup
  obtain ⟨hkeys, hkeyReports⟩ := foldl_addForeignKey_tables statements.foreignKeys
    (statements.indexes.foldl Progress.addIndex (statements.tables.foldl Progress.addTable {}))
  exact ⟨hkeys.trans hindexes, hkeyReports.trans (hindexReports.trans hd.reports)⟩

theorem exists_settled {statements : Statements} {t : Table} (h : t ∈ statements.progress.tables) :
    ∃ m, (acceptedFor t.id statements.tables).getLast? = some m ∧
      t.columns = (definedTable m).columns ∧
      t.indexes = (definedTable m).indexes ++ indexesOn t.id statements.indexes := by
  rw [(tables_progress statements).1] at h
  obtain ⟨u, hu, rfl⟩ := List.mem_map.1 h
  obtain ⟨m, hm, rfl⟩ :=
    Option.map_eq_some_iff.1 ((defines_foldl_addTable statements.tables).content u hu)
  exact ⟨m, hm, rfl, rfl⟩

theorem columns_ne_of_settled {statements : Statements} {t : Table}
    (h : t ∈ statements.progress.tables) : t.columns ≠ [] := by
  obtain ⟨m, hm, hcolumns, _⟩ := exists_settled h
  have ha := (List.mem_filter.1 (List.mem_of_getLast? hm)).2
  rw [hcolumns]
  simpa [isAccepted] using (Bool.and_eq_true_iff.1 ha).1

theorem ids_progress (statements : Statements) :
    statements.progress.tables.map Table.id = (acceptedIds statements.tables).eraseDups := by
  rw [(tables_progress statements).1, ids_withIndexesOn, (defines_foldl_addTable _).ids]

theorem filter_diagnostics_readStripped (text : List Char) :
    (readStripped text).diagnostics.filter isTableReport =
      definitionReports [] (Statements.ofText text).tables := by
  have hfilter : ((Statements.ofText text).progress.diagnostics ++
      reportUnrecognised (Statements.ofText text).spans text).filter isTableReport =
      definitionReports [] (Statements.ofText text).tables := by
    rw [List.filter_append, filter_reportUnrecognised, List.append_nil, (tables_progress _).2]
  have hordered : (Statements.ofText text).tables.Pairwise fun m n => m.start < n.start :=
    pairwise_findAll _ _
  have hread : (readStripped text).diagnostics =
      sortDiagnostics ((Statements.ofText text).progress.diagnostics ++
        reportUnrecognised (Statements.ofText text).spans text) := rfl
  rw [hread, filter_sortDiagnostics, hfilter]
  rw [hfilter]
  exact pairwise_definitionReports hordered

/-- Whatever the text is, its tables are those that its statements settle on: all that the patterns
of tables and of indexes match of the text without its comments, in its order. -/
theorem settledTables_read (sql : String) :
    SettledTables (Statement.createTable.findAll (Comment.strip sql.toList))
      (Statement.createIndex.findAll (Comment.strip sql.toList)) (read sql) := by
  have he := extracted_read sql
  exact
    { ids_nodup := he.ids_nodup
      columns_ne := fun t ht => columns_ne_of_settled ht
      splitFirst_id := fun t ht => (he.tables t ht).splitFirst_id
      note_none := fun t ht => (he.tables t ht).note_none
      color_none := fun t ht => (he.tables t ht).color_none
      type_ne := fun t ht column hc => ((he.tables t ht).columns column hc).type_ne
      type_lowered := fun t ht column hc => ((he.tables t ht).columns column hc).type_lowered
      manyToOne := fun r hr => (he.relationships r hr).manyToOne
      label_none := fun r hr => (he.relationships r hr).label_none
      ids := ids_progress (Statements.ofText _)
      content := fun t ht => @exists_settled (Statements.ofText _) t ht
      reports := filter_diagnostics_readStripped _ }

end SchemaText.Sql
