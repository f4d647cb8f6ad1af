import SchemaText.Proofs.QualifiedName
import SchemaText.Proofs.Sql.ColumnRead
import SchemaText.Sql.Script
/-! Tables of the core grammar, read clause by clause. -/

namespace SchemaText.Sql.Core

open Diagram (isPlain)

section Marks

/-- Marks the column as part of the primary key if it is one of the names. -/
def mark (names : List String) (column : Column) : Column :=
  { column with primaryKey := column.primaryKey || names.contains column.name }

theorem mark_mark (name : String) (names : List String) (column : Column) :
    mark names (mark [name] column) = mark (name :: names) column := by
  simp [mark, Bool.or_assoc]

theorem mark_eq_self {names : List String} {column : Column} (h : column.name ∉ names) :
    mark names column = column := by
  simp [mark, h]

theorem map_mark_eq_self {names : List String} {columns : List Column}
    (h : ∀ column ∈ columns, column.name ∉ names) : columns.map (mark names) = columns := by
  rw [List.map_congr_left fun column hc => mark_eq_self (h column hc), List.map_id']

theorem markKey?_eq {name : String} {columns : List Column}
    (h : (columns.map Column.name).Nodup) (k : name ∈ columns.map Column.name) :
    Draft.markKey? name columns = some (columns.map (mark [name])) := by
  induction columns with
  | nil => simp at k
  -- Only one column has the name, so that marking the first marks all.
  | cons column columns ih =>
    obtain ⟨hnot, hnodup⟩ := List.nodup_cons.1 h
    unfold Draft.markKey?
    by_cases hn : column.name = name
    · have hother : columns.map (mark [name]) = columns := by
        refine map_mark_eq_self fun other ho hin => hnot ?_
        rw [hn, ← List.mem_singleton.1 hin]
        exact List.mem_map_of_mem ho
      rw [if_pos hn, List.map_cons, hother]
      simp [mark, hn]
    · have hin : name ∈ columns.map Column.name := by
        rcases List.mem_cons.1 k with hk | hk
        · exact absurd hk.symm hn
        · exact hk
      rw [if_neg hn, ih hnodup hin, List.map_cons, mark_eq_self (by simpa using hn)]
      rfl

theorem markKeys_eq (offset : Nat) {names : List String} {columns : List Column}
    (h : (columns.map Column.name).Nodup) (k : ∀ name ∈ names, name ∈ columns.map Column.name) :
    Draft.markKeys offset names columns = (columns.map (mark names), []) := by
  induction names generalizing columns with
  | nil => rw [Draft.markKeys, map_mark_eq_self (by simp)]
  | cons name names ih =>
    have hnames : (columns.map (mark [name])).map Column.name = columns.map Column.name := by
      rw [List.map_map]
      rfl
    have hnodup : ((columns.map (mark [name])).map Column.name).Nodup := by
      rw [hnames]
      exact h
    have hrest := ih hnodup (by
      rw [hnames]
      exact fun other ho => k other (List.mem_cons_of_mem _ ho))
    rw [Draft.markKeys, markKey?_eq h (k name (by simp))]
    simp only []
    rw [hrest, List.map_map]
    congr 1
    exact List.map_congr_left fun column _ => mark_mark name names column

end Marks

section Clauses

/-- The columns that a clause declares. -/
def TableClause.names : TableClause → List String
  | .column definition => [definition.name.text]
  | _ => []

/-- What a clause has to respect behind columns of the names `declared`. -/
def TableClause.Fits (declared : List String) : TableClause → Prop
  | .column definition =>
    definition.opensConstraint = false ∧ definition.flags.Nodup ∧ definition.name.text ∉ declared
  | .primaryKey columns => columns ≠ [] ∧ ∀ column ∈ columns, column.text ∈ declared
  | .foreignKey pairs _ => pairs ≠ []
  | .unique columns => columns ≠ []

def ClausesFit : List String → List TableClause → Prop
  | _, [] => True
  | declared, clause :: clauses =>
    clause.Fits declared ∧ ClausesFit (declared ++ clause.names) clauses

structure Declares (done : List TableClause) : Prop where
  nodup : (done.flatMap TableClause.names).Nodup
  keys : ∀ key ∈ done.flatMap TableClause.keys, key ∈ done.flatMap TableClause.names

def draftOf (id : Id) (done : List TableClause) : Draft where
  table := tableOf id done
  relationships := done.flatMap (TableClause.relationships id)

variable {id : Id} {done : List TableClause}

theorem names_filterMap (done : List TableClause) :
    (done.filterMap TableClause.column?).map (fun column => column.name.text) =
      done.flatMap TableClause.names := by
  induction done with
  | nil => rfl
  | cons clause done ih =>
    cases clause with
    | column column => exact congrArg (column.name.text :: ·) ih
    | _ => exact ih

theorem names_tableOf (id : Id) (done : List TableClause) :
    (tableOf id done).columns.map Column.name = done.flatMap TableClause.names := by
  rw [← names_filterMap]
  unfold tableOf
  rw [List.map_map]
  rfl

theorem declares_nil : Declares [] :=
  ⟨by simp, by simp⟩

theorem Declares.concat (h : Declares done) {clause : TableClause}
    (k : clause.Fits (done.flatMap TableClause.names)) : Declares (done ++ [clause]) := by
  cases clause with
  | column column =>
    refine ⟨?_, fun key hk => ?_⟩
    · have hn := k.2.2
      rw [List.flatMap_append, List.nodup_append]
      refine ⟨h.nodup, by simp [TableClause.names], fun a ha b hb => ?_⟩
      rintro rfl
      obtain rfl : a = column.name.text := by simpa [TableClause.names] using hb
      exact hn ha
    · have hkey := h.keys key (by simpa [TableClause.keys] using hk)
      rw [List.flatMap_append]
      exact List.mem_append_left _ hkey
  | primaryKey columns =>
    refine ⟨by simpa [TableClause.names] using h.nodup, fun key hk => ?_⟩
    rw [List.flatMap_append, List.mem_append] at hk ⊢
    rcases hk with hk | hk
    · exact .inl (h.keys key hk)
    · obtain ⟨column, hc, rfl⟩ : ∃ column ∈ columns, column.text = key := by
        simpa [TableClause.keys] using hk
      exact .inl (k.2 column hc)
  | foreignKey pairs target =>
    exact ⟨by simpa [TableClause.names] using h.nodup, by
      simpa [TableClause.names, TableClause.keys] using h.keys⟩
  | unique columns =>
    exact ⟨by simpa [TableClause.names] using h.nodup, by
      simpa [TableClause.names, TableClause.keys] using h.keys⟩

theorem mark_column (keys names : List String) (column : ColumnDefinition) :
    mark names (column.column keys) = column.column (keys ++ names) := by
  simp [mark, ColumnDefinition.column, Bool.or_assoc]

theorem column_of_notMem {keys : List String} {column : ColumnDefinition}
    (h : column.name.text ∉ keys) : column.column keys = column.column [] := by
  simp [ColumnDefinition.column, h]

theorem applyClause_eq (h : Declares done) {clause : TableClause}
    (k : clause.Fits (done.flatMap TableClause.names)) (offset : Nat) :
    (draftOf id done).applyClause ⟨offset, clause.chars⟩ = (draftOf id (done ++ [clause]), []) := by
  -- Columns come before the keys that name them, so a new column is not yet marked.
  cases clause with
  | column column =>
    obtain ⟨hopens, hflags, hname⟩ := k
    have hkeys : column.name.text ∉ done.flatMap TableClause.keys := fun hin =>
      hname (h.keys _ hin)
    rw [applyClause_column _ offset hopens hflags]
    simp [draftOf, tableOf, Draft.addColumn, Draft.withColumns, TableClause.column?,
      TableClause.keys, TableClause.index?, TableClause.relationships, column_of_notMem hkeys]
  | primaryKey columns =>
    have hin : ∀ name ∈ columns.map Word.text,
        name ∈ (tableOf id done).columns.map Column.name := by
      intro name hn
      obtain ⟨column, hc, rfl⟩ := List.mem_map.1 hn
      rw [names_tableOf]
      exact k.2 column hc
    have hnodup : ((tableOf id done).columns.map Column.name).Nodup := by
      rw [names_tableOf]
      exact h.nodup
    have hmarks := markKeys_eq offset hnodup hin
    rw [applyClause_primaryKey _ offset k.1]
    have hcolumns : (draftOf id done).table.columns = (tableOf id done).columns := rfl
    simp only [hcolumns, hmarks]
    have hmark : (tableOf id (done ++ [.primaryKey columns])).columns =
        (tableOf id done).columns.map (mark (columns.map Word.text)) := by
      have hnone : [TableClause.primaryKey columns].filterMap TableClause.column? = [] := rfl
      unfold tableOf
      rw [List.filterMap_append, hnone, List.append_nil, List.map_map]
      refine List.map_congr_left fun column _ => ?_
      rw [Function.comp_apply, mark_column, List.flatMap_append]
      simp [TableClause.keys]
    rw [← hmark]
    simp [draftOf, tableOf, Draft.withColumns, TableClause.index?, TableClause.relationships]
  | foreignKey pairs target =>
    rw [applyClause_foreignKey _ offset k target]
    simp [draftOf, tableOf, Draft.addRelationships, TableClause.column?, TableClause.keys,
      TableClause.index?, TableClause.relationships, relationshipsOf]
  | unique columns =>
    rw [applyClause_unique _ offset k]
    simp [draftOf, tableOf, Draft.addIndex, TableClause.column?, TableClause.keys,
      TableClause.index?, TableClause.relationships]

theorem applyClauses_eq (h : Declares done) {clauses : List TableClause}
    (k : ClausesFit (done.flatMap TableClause.names) clauses) {parts : List Clause}
    (hp : parts.map (fun part => part.trim.text) = clauses.map TableClause.chars) :
    (draftOf id done).applyClauses parts = (draftOf id (done ++ clauses), []) := by
  -- Induction on the clauses; `done` collects those behind which the reader stands.
  induction clauses generalizing done parts with
  | nil =>
    obtain rfl : parts = [] := by simpa using hp
    simp [Draft.applyClauses]
  | cons clause clauses ih =>
    obtain ⟨part, parts, rfl⟩ := List.exists_cons_of_ne_nil (l := parts) (by
      rintro rfl
      cases hp)
    obtain ⟨hpart, hparts⟩ := List.cons.inj hp
    have hstep : (draftOf id done).applyClause ⟨part.trim.offset, clause.chars⟩ =
        (draftOf id (done ++ [clause]), []) := applyClause_eq h k.1 _
    have hrest := ih (h.concat k.1) (by simpa using k.2) hparts
    rw [applyClauses_cons hpart (firm_clause clause).ne_nil hstep, hrest, List.append_assoc,
      List.singleton_append]

theorem dot_notMem_word (w : Word) : '.' ∉ w.chars :=
  fun hin => absurd (w.plain _ hin) (by decide)

theorem splitFirst_id (id : Id) :
    QualifiedName.splitFirst id.text = (id.schema.map Word.text, id.name.text) := by
  obtain ⟨schema, name⟩ := id
  cases schema with
  | none =>
    refine QualifiedName.splitFirst_eq_none_iff.2 ⟨?_, rfl⟩
    simpa [Id.text, Id.chars] using dot_notMem_word name
  | some schema =>
    refine QualifiedName.splitFirst_eq_some_iff.2 ⟨?_, ?_⟩
    · simpa [Word.text] using dot_notMem_word schema
    · simp [Id.text, Id.chars, Word.text]

theorem ofId_text (id : Id) : Draft.ofId id.text = draftOf id [] := by
  unfold Draft.ofId
  simp only [splitFirst_id]
  rfl

/-- The clauses of a table fit, and one of them is a column. -/
structure TableFits (clauses : List TableClause) : Prop where
  clauses_fit : ClausesFit [] clauses
  column_ne : clauses.filterMap TableClause.column? ≠ []

theorem draftOf_eq {id : Id} {clauses : List TableClause} {m : Pattern.Match}
    (hm : tableTexts (.table id clauses) = some (textsOf m)) (h : TableFits clauses) :
    Progress.draftOf m = (draftOf id clauses, []) := by
  have hx : textsOf m = _ := (Option.some.inj hm).symm
  have htable : m.text "table" = id.chars := text_eq hx "table"
  have hbody : m.text "body" = bodyText clauses := text_eq hx "body"
  obtain ⟨clause, clauses, rfl⟩ := List.exists_cons_of_ne_nil (l := clauses) (by
    rintro rfl
    exact h.column_ne rfl)
  unfold Progress.draftOf
  rw [htable, hbody, cleanName_id, ofId_text]
  refine applyClauses_eq declares_nil h.clauses_fit ?_
  rw [List.map_map, ← trimmed_ofText clause clauses]
  rfl

end Clauses

end SchemaText.Sql.Core
