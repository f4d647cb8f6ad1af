import SchemaText.Proofs.Sql.ScriptRead
import SchemaText.Proofs.Sql.WrittenClause
/-! Written tables, each read as one definition. -/

namespace SchemaText.Sql.Written

open Pattern Statement
open Sql.Core (Word enclosed textsOf text_eq)
open Text (Stops stops_cons isWord)

section Body

open Clause

theorem keeps_line (clause : TableClause) : Core.Keeps {} ('\n' :: '\t' :: clause.chars) := by
  have hline : Core.Keeps {} ['\n', '\t'] := Core.keeps_of_forall (by simp [isMark])
  exact hline.append (keeps_clause clause)

theorem trim_line (clause : TableClause) :
    Text.trim ('\n' :: '\t' :: clause.chars) = clause.chars := by
  have hfront : ['\n', '\t'].all Text.isBlank := by decide
  have hback : [].all Text.isBlank := rfl
  have h := (firm_clause clause).trim_between hfront hback
  rwa [List.append_nil] at h

theorem map_trim_cut_bodyText (clause : TableClause) (clauses : List TableClause) :
    (cut {} (bodyText (clause :: clauses))).map Text.trim =
      (clause :: clauses).map TableClause.chars := by
  induction clauses generalizing clause with
  | nil =>
    have hend : Core.Keeps {} ['\n'] := Core.keeps_of_forall (by simp [isMark])
    have hcut := (keeps_line clause).append hend []
    have hbody : bodyText [clause] = '\n' :: '\t' :: clause.chars ++ ['\n'] ++ [] := by
      simp [bodyText, List.intercalate]
    have hfront : ['\n', '\t'].all Text.isBlank := by decide
    have hback : ['\n'].all Text.isBlank := by decide
    have htrim : Text.trim ('\n' :: '\t' :: clause.chars ++ ['\n']) = clause.chars :=
      (firm_clause clause).trim_between hfront hback
    rw [hbody, hcut]
    simpa [cut] using htrim
  | cons next clauses ih =>
    have hbody : bodyText (clause :: next :: clauses) =
        '\n' :: '\t' :: clause.chars ++ ',' :: (' ' :: bodyText (next :: clauses)) := by
      simp [bodyText, List.intercalate]
    have hspace := Core.cut_cons_of_not_top {} (c := ' ') (by decide) (bodyText (next :: clauses))
    have hafter : ({} : Nesting).after ' ' = {} := rfl
    have htrim (parts : List (List Char)) :
        (parts.modifyHead (' ' :: ·)).map Text.trim = parts.map Text.trim := by
      cases parts with
      | nil => rfl
      | cons part parts => exact congrArg (· :: _) (Text.trim_space_cons part)
    rw [hbody, keeps_line clause, cut, if_pos (by decide), hspace, hafter, List.modifyHead_cons,
      List.append_nil, List.map_cons, trim_line, htrim, ih next]
    rfl

theorem trimmed_ofText {clauses : List TableClause} (h : clauses ≠ []) :
    (ofText (bodyText clauses)).map (fun part => part.trim.text) =
      clauses.map TableClause.chars := by
  obtain ⟨clause, clauses, rfl⟩ := List.exists_cons_of_ne_nil h
  rw [Core.map_trim_ofText, map_trim_cut_bodyText]
  intro part hp
  have hm := List.mem_map_of_mem hp (f := Text.trim)
  rw [map_trim_cut_bodyText] at hm
  obtain ⟨other, _, ho⟩ := List.mem_map.1 hm
  rw [← ho]
  exact (firm_clause other).ne_nil

end Body

section Draft

variable (draft : Draft)

theorem foldl_columns (columns : List Column) :
    (columns.map TableClause.column).foldl TableClause.apply draft =
      draft.withColumns (draft.table.columns ++ columns.map (Column.column [])) := by
  induction columns generalizing draft with
  | nil => simp [Draft.withColumns]
  | cons column columns ih =>
    rw [List.map_cons, List.foldl_cons, ih]
    simp [TableClause.apply, Draft.addColumn, Draft.withColumns]

theorem foldl_uniques (names : List Name) :
    (names.map TableClause.unique).foldl TableClause.apply draft =
      { draft with table := { draft.table with
          indexes := draft.table.indexes ++
            names.map fun name => { columns := [name.text], unique := true } } } := by
  induction names generalizing draft with
  | nil => simp
  | cons name names ih =>
    rw [List.map_cons, List.foldl_cons, ih]
    simp [TableClause.apply, Draft.addIndex]

theorem foldl_references (references : List Reference) :
    (references.map TableClause.reference).foldl TableClause.apply draft =
      draft.addRelationships (references.map (Reference.relationship draft.table.id)) := by
  induction references generalizing draft with
  | nil => simp [Draft.addRelationships]
  | cons r references ih =>
    rw [List.map_cons, List.foldl_cons, ih]
    simp [TableClause.apply, Draft.addRelationships]

theorem clausesFit_of_forall {clauses : List TableClause}
    (h : ∀ clause ∈ clauses, ∀ draft, clause.Fits draft) : ClausesFit draft clauses := by
  induction clauses generalizing draft with
  | nil => trivial
  | cons clause clauses ih =>
    have hmore := ih (clause.apply draft) fun other ho => h other (List.mem_cons_of_mem _ ho)
    exact ⟨h clause List.mem_cons_self draft, hmore⟩

def Table.start (table : Table) : Draft :=
  { table :=
      { id := table.id.text, name := table.id.name.text
        schema := table.id.schema.map Name.text } }

def Table.withoutKeys (table : Table) : Draft :=
  table.start.withColumns (table.columns.map (Column.column []))

theorem names_withoutKeys (table : Table) :
    table.withoutKeys.table.columns.map SchemaText.Column.name =
      table.columns.map fun column => column.name.text := by
  simp only [Table.withoutKeys, Draft.withColumns, List.map_map]
  rfl

theorem foldl_start (table : Table) :
    (table.columns.map TableClause.column).foldl TableClause.apply table.start =
      table.withoutKeys := by
  rw [foldl_columns]
  rfl

theorem clausesFit (table : Table) : ClausesFit table.start table.clauses := by
  have hcolumns : ClausesFit table.start (table.columns.map .column) :=
    clausesFit_of_forall _ (by simp [TableClause.Fits])
  have hothers (draft : Draft) :
      ClausesFit draft (table.uniques.map .unique ++ table.references.map .reference) := by
    refine clausesFit_of_forall draft fun clause hc draft => ?_
    rcases List.mem_append.1 hc with hc | hc
    · obtain ⟨_, _, rfl⟩ := List.mem_map.1 hc
      trivial
    · obtain ⟨_, _, rfl⟩ := List.mem_map.1 hc
      trivial
  -- The primary key comes behind the columns that it names.
  refine hcolumns.append ?_
  rw [foldl_start]
  refine ClausesFit.append ?_ (hothers _)
  split
  · trivial
  · next hne =>
    refine ⟨⟨hne, ?_, fun key hk => ?_⟩, trivial⟩
    · rw [names_withoutKeys]
      exact table.nodup
    · rw [names_withoutKeys]
      exact table.keys_mem key hk

theorem mark_column (keys : List String) (column : Column) :
    Core.mark keys (column.column []) = column.column keys := by
  simp [Core.mark, Column.column]

theorem foldl_clauses (table : Table) :
    table.clauses.foldl TableClause.apply table.start = ⟨table.table, table.relationships⟩ := by
  have hkeys : (if table.keys = [] then [] else [TableClause.primaryKey table.keys]).foldl
      TableClause.apply table.withoutKeys =
      table.start.withColumns (table.columns.map (Column.column (table.keys.map Name.text))) := by
    split
    · next h =>
      rw [h]
      rfl
    · have hmark : table.withoutKeys.table.columns.map (Core.mark (table.keys.map Name.text)) =
          table.columns.map (Column.column (table.keys.map Name.text)) := by
        simp only [Table.withoutKeys, Draft.withColumns, List.map_map]
        exact List.map_congr_left fun column _ => mark_column _ column
      rw [List.foldl_cons, List.foldl_nil, TableClause.apply, hmark]
      rfl
  unfold Table.clauses
  rw [List.foldl_append, foldl_start, List.foldl_append, hkeys, List.foldl_append, foldl_uniques,
    foldl_references]
  simp [Draft.addRelationships, Draft.withColumns, Table.start, Table.table, Table.relationships]

end Draft

section Statement

theorem Id.namesTable (id : Id) : Core.NamesTable id.chars where
  stops := id.stops
  takes _ h := takes_id id h
  takes_nil _ h := takes_nil_ifNotExists id h

theorem ne_of_isTableChar {text : List Char} {c : Char} (h : text.all isTableChar)
    (k : isTableChar c = false) : c ∉ text := by
  intro hin
  rw [List.all_eq_true.1 h c hin] at k
  cases k

structure Covers (offset : Nat) (table : Table) (m : Match) : Prop where
  start : m.start = offset
  stop : m.stop = offset + table.chars.length
  texts : textsOf m =
    [("options", []), ("body", bodyText table.clauses), ("table", table.id.chars)]

theorem exists_covers (table : Table) {s : Spot} {rest : List Char} (hc : s.captures = [])
    (hb : s.before.any isWord = false) (hs : s.rest = table.chars ++ rest) :
    ∃ m, createTable.matchAt s = some m ∧ Covers s.offset table m := by
  have htakes := Core.takes_createTableText table.id.namesTable
    (ne_of_isTableChar (all_bodyText table.clauses) (c := ';') (by decide)) rest
  obtain ⟨m, hm, hstart, hstop, hx⟩ :=
    Core.exists_match_of_takes (c := 'C') agrees_createTable htakes rfl (by decide) hc hb hs
  exact ⟨m, hm, hstart, hstop, hx⟩

theorem splitFirst_text (id : Id) :
    QualifiedName.splitFirst id.text = (id.schema.map Name.text, id.name.text) := by
  have hschema : id.plain.schema.map Word.text = id.schema.map Name.text := Option.map_map _ _ _
  rw [← hschema]
  exact Core.splitFirst_id id.plain

theorem ofId_text (table : Table) : Draft.ofId table.id.text = table.start := by
  unfold Draft.ofId
  simp only [splitFirst_text]
  rfl

theorem draftOf_eq {offset : Nat} {table : Table} {m : Match} (h : Covers offset table m) :
    Progress.draftOf m = (⟨table.table, table.relationships⟩, []) := by
  have htable : m.text "table" = table.id.chars := text_eq h.texts "table"
  have hbody : m.text "body" = bodyText table.clauses := text_eq h.texts "body"
  have hid : Draft.cleanName table.id.chars = table.id.text := by
    unfold Draft.cleanName
    rw [clean_id]
    rfl
  have hne : table.clauses ≠ [] := by
    simp [Table.clauses, table.columns_ne]
  unfold Progress.draftOf
  rw [htable, hbody, hid, ofId_text, ← foldl_clauses]
  refine applyClauses_eq (clausesFit table) ?_
  rw [List.map_map, ← trimmed_ofText hne]
  rfl

theorem addTable_eq {progress : Progress} {offset : Nat} {table : Table} {m : Match}
    (h : Covers offset table m) (hnew : table.id.text ∉ progress.tables.map SchemaText.Table.id) :
    progress.addTable m =
      { tables := progress.tables ++ [table.table]
        relationships := progress.relationships ++ table.relationships
        diagnostics := progress.diagnostics } := by
  have hcolumns : table.table.columns.isEmpty = false := by
    simpa [Table.table] using table.columns_ne
  have hid : table.table.id = table.id.text := rfl
  have hknown : ∀ other ∈ progress.tables, ¬ other.id = table.id.text := fun other ho he =>
    hnew (he ▸ List.mem_map_of_mem ho)
  have hput : putTable table.table progress.tables = progress.tables ++ [table.table] :=
    Core.putTable_of_notMem hnew
  unfold Progress.addTable
  simp only [draftOf_eq h, hcolumns, hid, Progress.report]
  simpa [hput] using hknown

end Statement

end SchemaText.Sql.Written
