import SchemaText.Proofs.Export.PlainCatalog
import SchemaText.Proofs.Export.TableLayout
/-! The definitions of plain tables, as texts that a reader of definitions takes. -/

namespace SchemaText.Export

open Sql.Core (enclosed)
open Sql.Written (Name TableClause)

section Columns

variable {d : Dialect} {column : Column} {entry : CatalogColumn} {text : String}

theorem IsColumnEntry.isPlainDefinition (he : IsColumnEntry column entry) :
    IsPlainDefinition entry where
  name := he.name ▸ he.plain.name
  type schema name values ht := by
    have htype := he.type
    rw [ht] at htype
    rcases eq_raw_or_isKnown_of_read htype with h | h <;> cases h
  default := he.default
  comment := he.comment

theorem IsColumnText.exists_column (h : IsColumnText d entry text)
    (he : IsColumnEntry column entry) :
    ∃ c : Sql.Written.Column, c.chars = text.toList ∧
      (c.name.text, c.notNull) = (entry.name, !entry.nullable) := by
  obtain ⟨hname, htype, counts⟩ := h
  obtain ⟨n, hn, ht⟩ := hname.exists_name (he.name ▸ he.plain.name)
  obtain ⟨written, hw⟩ := he.plain.type.isTypeText_of_writesType he.type htype
  have hword : n.word.chars = column.name.toList := by
    rw [← he.name, ← ht]
    exact String.toList_ofList.symm
  refine ⟨⟨n, written, !entry.nullable, counts, hword ▸ he.plain.named⟩, ?_, by rw [ht]⟩
  cases hnull : entry.nullable <;> cases counts <;>
    simp [Sql.Written.Column.chars, Sql.Written.Column.flags, hn, hw]

end Columns

section Keys

variable {d : Dialect} {table : Table} {entry : CatalogTable} {texts : List String}

theorem IsTableEntry.isPlainEntry (he : IsTableEntry table entry) : IsPlainEntry entry where
  name := by
    rw [he.name]
    exact ⟨he.plain.schema, he.plain.name⟩
  columns c hc := by
    obtain ⟨_, _, hcolumn⟩ := exists_left_of_mem he.columns hc
    exact hcolumn.isPlainDefinition
  nodup := he.names_eq ▸ he.plain.nodup
  comment := he.comment

theorem IsPrimaryKeyText.exists_names (h : IsPrimaryKeyText d entry.columns texts)
    (he : IsTableEntry table entry) :
    ∃ names : List Name,
      (∀ name, name ∈ names.map Name.text ↔ ∃ c ∈ entry.columns, c.primaryKey ∧ c.name = name) ∧
      (if names = [] then [] else [TableClause.primaryKey names]).map
        TableClause.chars = texts.map String.toList := by
  cases h with
  | none hnone =>
    refine ⟨[], fun name => ⟨fun hm => (List.not_mem_nil hm).elim, fun ⟨c, hc, hk, _⟩ => ?_⟩, rfl⟩
    rw [hnone c hc] at hk
    cases hk
  | @named keys texts hne hperm hkeys =>
    have hmem (name : String) :
        name ∈ keys ↔ ∃ c ∈ entry.columns, c.primaryKey ∧ c.name = name := by
      rw [hperm.mem_iff]
      simp [and_assoc]
    have hplain : ∀ name ∈ keys, IsName name := by
      intro name hm
      obtain ⟨c, hc, _, rfl⟩ := (hmem name).1 hm
      exact (he.isPlainEntry.columns c hc).name
    obtain ⟨names, hchars, rfl⟩ := SchemaText.Export.exists_names hplain hkeys
    have hnames : names ≠ [] := fun hnil => hne (by rw [hnil]; rfl)
    have hclause : (TableClause.primaryKey names).chars =
        ("PRIMARY KEY (" ++ ", ".intercalate texts ++ ")").toList := by
      change "PRIMARY KEY ".toList ++ enclosed (Sql.Written.namesText names) = _
      simp [enclosed, hchars]
    exact ⟨names, hmem, by rw [if_neg hnames, List.map_singleton, hclause, List.map_singleton]⟩

theorem exists_names_of_uniques (he : IsTableEntry table entry)
    (h : List.Forall₂ (IsUniqueText d) (entry.columns.filter (·.unique)) texts) :
    ∃ names : List Name,
      names.map (fun n => "UNIQUE ".toList ++ enclosed n.chars) = texts.map String.toList ∧
      names.map Name.text = (entry.columns.filter (·.unique)).map CatalogColumn.name := by
  refine exists_written_of_forall₂ h fun column hm text ht => ?_
  obtain ⟨hname⟩ := ht
  have hplain := (he.isPlainEntry.columns column (List.mem_of_mem_filter hm)).name
  obtain ⟨n, hn, hnt⟩ := hname.exists_name hplain
  exact ⟨n, by simp [enclosed, hn], hnt⟩

theorem IsForeignKeyText.exists_reference {key : ForeignKey} {text : String}
    (h : IsForeignKeyText d key text) (k : IsPlainKey key) :
    ∃ r : Sql.Written.Reference, r.chars = text.toList ∧
      r.relationship key.owner.key = key.relationship := by
  obtain ⟨hcolumn, htarget, htargetColumn⟩ := h
  obtain ⟨n, hn, hnt⟩ := hcolumn.exists_name k.column
  obtain ⟨id, hid, hidt⟩ := htarget.exists_id k.target.schema k.target.name
  obtain ⟨m, hm, hmt⟩ := htargetColumn.exists_name k.targetColumn
  refine ⟨⟨n, id, m⟩, ?_, ?_⟩
  · change "FOREIGN KEY".toList ++ (enclosed n.chars ++ (" REFERENCES ".toList ++
      (id.chars ++ ' ' :: enclosed m.chars))) = _
    rw [hn, hid, hm]
    simp [enclosed]
  · simp only [Sql.Written.Reference.relationship, ForeignKey.relationship, hnt, hidt, hmt]

theorem exists_references {owner : String} {keys : List ForeignKey}
    (k : ∀ key ∈ keys, IsPlainKey key ∧ key.owner.key = owner)
    (h : List.Forall₂ (IsForeignKeyText d) keys texts) :
    ∃ references : List Sql.Written.Reference,
      references.map Sql.Written.Reference.chars = texts.map String.toList ∧
      references.map (Sql.Written.Reference.relationship owner) =
        keys.map ForeignKey.relationship := by
  refine exists_written_of_forall₂ h fun key hm text ht => ?_
  obtain ⟨r, hr, hrel⟩ := ht.exists_reference (k key hm).1
  exact ⟨r, hr, (k key hm).2 ▸ hrel⟩

end Keys

section Tables

variable {d : Dialect} {table : Table} {entry : CatalogTable}

def TableShape.ofEntry (entry : CatalogTable) : TableShape :=
  ⟨entry.id, entry.columns.map fun c => ⟨c.name, c.primaryKey, !c.nullable⟩⟩

theorem IsTableEntry.ofEntry_eq (he : IsTableEntry table entry) :
    TableShape.ofEntry entry = TableShape.ofDefined table := by
  have hcolumns : table.columns.map ColumnShape.ofDefined =
      entry.columns.map fun c => ⟨c.name, c.primaryKey, !c.nullable⟩ :=
    map_eq_of_forall₂ he.columns fun column c hc => by
      rw [hc.name, hc.primaryKey, hc.nullable, Bool.not_not]
      rfl
  unfold TableShape.ofEntry TableShape.ofDefined
  rw [he.id, hcolumns]

theorem exists_columns (he : IsTableEntry table entry) {texts : List String}
    (h : List.Forall₂ (IsColumnText d) entry.columns texts) :
    ∃ columns : List Sql.Written.Column,
      columns.map Sql.Written.Column.chars = texts.map String.toList ∧
      columns.map (fun c => (c.name.text, c.notNull)) =
        entry.columns.map fun c => (c.name, !c.nullable) := by
  refine exists_written_of_forall₂ h fun c hc text ht => ?_
  obtain ⟨column, _, hcolumn⟩ := exists_left_of_mem he.columns hc
  exact ht.exists_column hcolumn

theorem bodyText_eq {clauses : List TableClause} {texts : List String}
    (h : clauses.map TableClause.chars = texts.map String.toList) :
    Sql.Written.bodyText clauses =
      (", ".intercalate (texts.map ("\n\t" ++ ·)) ++ "\n").toList := by
  have hlines : clauses.map (fun clause => '\n' :: '\t' :: clause.chars) =
      (texts.map ("\n\t" ++ ·)).map String.toList := by
    calc clauses.map (fun clause => '\n' :: '\t' :: clause.chars)
        _ = (clauses.map TableClause.chars).map fun text => '\n' :: '\t' :: text := by
          rw [List.map_map]
          rfl
        _ = (texts.map ("\n\t" ++ ·)).map String.toList := by
          rw [h, List.map_map, List.map_map]
          exact List.map_congr_left fun text _ => by simp
  rw [Sql.Written.bodyText, hlines, String.toList_append, String.toList_intercalate]
  rfl

theorem map_chars_clauses (t : Sql.Written.Table) :
    t.clauses.map TableClause.chars =
      t.columns.map Sql.Written.Column.chars ++
        ((if t.keys = [] then [] else [TableClause.primaryKey t.keys]).map TableClause.chars ++
          (t.uniques.map (fun n => "UNIQUE ".toList ++ enclosed n.chars) ++
            t.references.map Sql.Written.Reference.chars)) := by
  simp only [Sql.Written.Table.clauses, List.map_append, List.map_map]
  rfl

theorem stem_eq {t : Sql.Written.Table} {l : Layout} (hid : t.id.chars = l.name.toList)
    (h : t.clauses.map TableClause.chars = l.entries.map String.toList) :
    t.stem = l.text.toList := by
  change "CREATE TABLE ".toList ++
    (t.id.chars ++ ' ' :: enclosed (Sql.Written.bodyText t.clauses)) = _
  rw [bodyText_eq h, hid]
  simp [enclosed, Layout.text]

theorem IsTableEntry.columns_eq (he : IsTableEntry table entry) {keys : List String}
    (hkeys : ∀ name, name ∈ keys ↔ ∃ c ∈ entry.columns, c.primaryKey ∧ c.name = name)
    {columns : List Sql.Written.Column}
    (h : columns.map (fun c => (c.name.text, c.notNull)) =
      entry.columns.map fun c => (c.name, !c.nullable)) :
    (columns.map (Sql.Written.Column.column keys)).map ColumnShape.ofColumn =
      entry.columns.map fun c => ⟨c.name, c.primaryKey, !c.nullable⟩ := by
  let shape (column : String × Bool) : ColumnShape := ⟨column.1, keys.contains column.1, column.2⟩
  have hcontains {c : CatalogColumn} (hc : c ∈ entry.columns) :
      keys.contains c.name = c.primaryKey := by
    rw [Bool.eq_iff_iff, List.contains_iff_mem, hkeys]
    constructor
    · rintro ⟨other, ho, hk, hname⟩
      rwa [List.inj_on_of_nodup_map he.isPlainEntry.nodup ho hc hname] at hk
    · exact fun hk => ⟨c, hc, hk, rfl⟩
  calc (columns.map (Sql.Written.Column.column keys)).map ColumnShape.ofColumn
      _ = (columns.map fun c => (c.name.text, c.notNull)).map shape := by
        rw [List.map_map, List.map_map]
        rfl
      _ = entry.columns.map fun c => ⟨c.name, c.primaryKey, !c.nullable⟩ := by
        rw [h, List.map_map]
        refine List.map_congr_left fun c hc => ?_
        rw [← hcontains hc]
        rfl

theorem IsTableEntry.exists_table (he : IsTableEntry table entry) {id : Sql.Written.Id}
    (hid : id.text = table.id) {columns : List Sql.Written.Column}
    (hcolumns : columns.map (fun c => (c.name.text, c.notNull)) =
      entry.columns.map fun c => (c.name, !c.nullable))
    {keys : List Name}
    (hkeys : ∀ name, name ∈ keys.map Name.text ↔
      ∃ c ∈ entry.columns, c.primaryKey ∧ c.name = name)
    (uniques : List Name) (references : List Sql.Written.Reference) :
    ∃ t : Sql.Written.Table,
      (t.id = id ∧ t.columns = columns ∧ t.keys = keys ∧ t.uniques = uniques ∧
        t.references = references) ∧
      TableShape.ofTable t.table = TableShape.ofEntry entry := by
  have hnames : columns.map (fun c => c.name.text) = table.columns.map Column.name := by
    rw [he.names_eq]
    simpa [Function.comp_def] using congrArg (List.map Prod.fst) hcolumns
  have hne : columns ≠ [] := by
    rintro rfl
    exact he.plain.columns_ne (List.map_eq_nil_iff.1 hnames.symm)
  have hmem : ∀ key ∈ keys, key.text ∈ columns.map fun c => c.name.text := by
    intro key hk
    obtain ⟨c, hc, _, hn⟩ := (hkeys key.text).1 (List.mem_map_of_mem hk)
    rw [hnames, he.names_eq, ← hn]
    exact List.mem_map_of_mem hc
  refine ⟨⟨id, columns, keys, uniques, references, hne, hnames ▸ he.plain.nodup, hmem⟩,
    ⟨rfl, rfl, rfl, rfl, rfl⟩, ?_⟩
  change (⟨id.text, (columns.map (Sql.Written.Column.column (keys.map Name.text))).map
    ColumnShape.ofColumn⟩ : TableShape) = _
  rw [he.columns_eq hkeys hcolumns, hid, ← he.id]
  rfl

theorem IsLayout.exists_table {keys : List ForeignKey} {l : Layout} (hl : IsLayout d keys entry l)
    (he : IsTableEntry table entry)
    (h : ∀ key ∈ keys, IsPlainKey key ∧ key.owner.key = table.id) :
    ∃ t : Sql.Written.Table, t.stem = l.text.toList ∧
      TableShape.ofTable t.table = TableShape.ofEntry entry ∧
      t.relationships = keys.map ForeignKey.relationship := by
  have hname := hl.name
  rw [he.name] at hname
  obtain ⟨id, hid, hidt⟩ := hname.exists_id he.plain.schema he.plain.name
  obtain ⟨cs, hcs, hview⟩ := exists_columns he hl.columns
  obtain ⟨ns, hnt, hns⟩ := hl.primaryKey.exists_names he
  obtain ⟨us, hus, _⟩ := exists_names_of_uniques he hl.uniques
  obtain ⟨rs, hrs, hrel⟩ := exists_references h hl.foreignKeys
  have hkey : id.text = table.id := hidt.trans he.plain.key_eq
  obtain ⟨t, ⟨rfl, rfl, rfl, rfl, rfl⟩, hshape⟩ := he.exists_table hkey hview hnt us rs
  have hclauses : t.clauses.map TableClause.chars = l.entries.map String.toList := by
    rw [map_chars_clauses, hcs, hns, hus, hrs]
    simp only [Layout.entries, List.map_append, List.append_assoc]
  exact ⟨t, stem_eq hid hclauses, hshape, by rw [Sql.Written.Table.relationships, hkey, hrel]⟩

end Tables

end SchemaText.Export
