import Mathlib.Data.List.Nodup
import SchemaText.Proofs.Export.QuotedName
import SchemaText.Proofs.Export.TypeText
import SchemaText.Proofs.Text.Trim
/-! How the definition of a table of plain names is laid out, as it is documented of the library and
as the compilers for PostgreSQL and MySQL write it. -/

namespace SchemaText.Export

/-- The entries of a definition, each on a line of its own. -/
structure Layout where
  name : String
  columns : List String
  primaryKey : List String
  uniques : List String
  foreignKeys : List String

namespace Layout

def entries (l : Layout) : List String :=
  l.columns ++ l.primaryKey ++ l.uniques ++ l.foreignKeys

def text (l : Layout) : String :=
  "CREATE TABLE " ++ l.name ++ " (" ++ ", ".intercalate (l.entries.map ("\n\t" ++ ·)) ++ "\n)"

end Layout

section Specification

variable (d : Dialect)

inductive IsColumnText (c : CatalogColumn) : String → Prop
  | written {name type : String} (h : IsNameText d c.name name) (k : WritesType c.type type)
      (counts : Bool) :
    IsColumnText c (name ++ " " ++ type ++ (if c.nullable then "" else " NOT NULL") ++
      if counts then " AUTO_INCREMENT" else "")

inductive IsPrimaryKeyText (columns : List CatalogColumn) : List String → Prop
  | none (h : ∀ c ∈ columns, c.primaryKey = false) : IsPrimaryKeyText columns []
  | named {names texts : List String} (hne : names ≠ [])
      (h : names.Perm ((columns.filter (·.primaryKey)).map CatalogColumn.name))
      (k : List.Forall₂ (IsNameText d) names texts) :
    IsPrimaryKeyText columns ["PRIMARY KEY (" ++ ", ".intercalate texts ++ ")"]

inductive IsUniqueText (c : CatalogColumn) : String → Prop
  | written {name : String} (h : IsNameText d c.name name) :
    IsUniqueText c ("UNIQUE (" ++ name ++ ")")

inductive IsForeignKeyText (key : ForeignKey) : String → Prop
  | written {column target targetColumn : String} (hc : IsNameText d key.column column)
      (ht : IsReferenceText d key.target target)
      (hk : IsNameText d key.targetColumn targetColumn) :
    IsForeignKeyText key
      ("FOREIGN KEY(" ++ column ++ ") REFERENCES " ++ target ++ " (" ++ targetColumn ++ ")")

structure IsLayout (keys : List ForeignKey) (entry : CatalogTable) (l : Layout) : Prop where
  name : IsReferenceText d entry.name l.name
  columns : List.Forall₂ (IsColumnText d) entry.columns l.columns
  primaryKey : IsPrimaryKeyText d entry.columns l.primaryKey
  uniques : List.Forall₂ (IsUniqueText d) (entry.columns.filter (·.unique)) l.uniques
  foreignKeys : List.Forall₂ (IsForeignKeyText d) keys l.foreignKeys

end Specification

structure IsPlainDefinition (c : CatalogColumn) : Prop where
  name : IsName c.name
  type : ∀ schema name values, c.type ≠ .enumeration schema name values
  default : c.default = none
  comment : c.comment = none

structure IsPlainEntry (entry : CatalogTable) : Prop where
  name : IsPlainName entry.name
  columns : ∀ c ∈ entry.columns, IsPlainDefinition c
  nodup : (entry.columns.map CatalogColumn.name).Nodup
  comment : entry.comment = none

/-- The text of a table of plain names and types, without defaults and comments, is laid out so. -/
def Library.LaysOutTables (lib : Library) (d : Dialect) : Prop :=
  ∀ keys entry text, IsPlainEntry entry → (∀ key ∈ keys, IsPlainKey key) →
    lib.tableText d keys entry = .ok text →
    ∃ l : Layout, IsLayout d keys entry l ∧ strip text = l.text

section Columns

variable {d : Dialect} {table : CatalogTable} {column : CatalogColumn} {text : String}

theorem isColumnText_of_postgresqlColumn (h : IsPlainDefinition column)
    (k : Dialect.postgresqlColumn table column = .ok text) :
    IsColumnText .postgresql column text := by
  unfold Dialect.postgresqlColumn at k
  obtain ⟨name, hname, k⟩ := exists_of_bind k
  have hname := isNameText_of_quoteName h.name.isDottedName hname
  -- A check may come first; what is written does not depend on it.
  have hwritten : (if column.primaryKey && column.autoIncrement then
        .ok (name ++ " " ++ column.type.serial ++ Dialect.notNull column)
      else (column.type.render .postgresql).bind fun type =>
        .ok (name ++ " " ++ type ++ Dialect.postgresql.defaultPart column ++
          Dialect.notNull column)) = Except.ok text := by
    by_cases hp : column.primaryKey = true
    · simp only [if_pos hp] at k
      obtain ⟨_, _, k⟩ := exists_of_bind k
      exact k
    · simp only [if_neg hp] at k
      exact k
  split at hwritten
  · obtain rfl := Except.ok.inj hwritten
    simpa [Dialect.notNull] using IsColumnText.written hname (writesType_serial column.type) false
  · obtain ⟨type, htype, hwritten⟩ := exists_of_bind hwritten
    obtain rfl := Except.ok.inj hwritten
    have htype := writesType_of_renderPostgresql h.type htype
    simpa [Dialect.notNull, Dialect.defaultPart, h.default] using
      IsColumnText.written hname htype false

theorem isColumnText_of_mysqlColumn (h : IsPlainDefinition column)
    (k : Dialect.mysqlColumn table column = .ok text) : IsColumnText .mysql column text := by
  unfold Dialect.mysqlColumn at k
  obtain ⟨name, hname, k⟩ := exists_of_bind k
  obtain ⟨type, htype, k⟩ := exists_of_bind k
  obtain ⟨_, _, k⟩ := exists_of_bind k
  obtain rfl := Except.ok.inj k
  have hname := isNameText_of_quoteName h.name.isDottedName hname
  have htype := writesType_of_renderMysql h.type htype
  simpa [Dialect.notNull, Dialect.defaultPart, h.default, h.comment] using
    IsColumnText.written hname htype (column.primaryKey && column.autoIncrement)

theorem isColumnText_of_columnEntry (hd : d ≠ .sqlite) (h : IsPlainDefinition column)
    (k : d.columnEntry table column = .ok text) : IsColumnText d column text := by
  have hentry := eq_ok_of_mapError k
  cases d with
  | postgresql => exact isColumnText_of_postgresqlColumn h hentry
  | mysql => exact isColumnText_of_mysqlColumn h hentry
  | sqlite => exact absurd rfl hd

end Columns

section Keys

variable {d : Dialect} {entry : CatalogTable} {texts : List String} {text : String}

theorem mem_of_counting? {column : CatalogColumn} (h : entry.counting? = some column) :
    column ∈ entry.columns ∧ column.primaryKey := by
  have hp := List.find?_some h
  exact ⟨List.mem_of_find?_eq_some h, (Bool.and_eq_true_iff.1 hp).1⟩

theorem IsPlainEntry.perm_keyColumns (h : IsPlainEntry entry) :
    entry.keyColumns.Perm (entry.columns.filter (·.primaryKey)) := by
  unfold CatalogTable.keyColumns
  split
  · next column hcount =>
    let keys := entry.columns.filter (·.primaryKey)
    have hm : column ∈ keys := List.mem_filter.2 (mem_of_counting? hcount)
    have hnodup : (keys.map CatalogColumn.name).Nodup := h.nodup.sublist (List.filter_sublist.map _)
    have herase : keys.filter (·.name != column.name) = keys.erase column := by
      rw [hnodup.of_map.erase_eq_filter]
      refine List.filter_congr fun c hc => ?_
      rw [Bool.eq_iff_iff, bne_iff_ne, bne_iff_ne]
      exact not_congr ⟨List.inj_on_of_nodup_map hnodup hc hm, fun he => he ▸ rfl⟩
    change (column :: keys.filter (·.name != column.name)).Perm keys
    rw [herase]
    exact (List.perm_cons_erase hm).symm
  · exact .refl _

theorem isNameTexts_of_quoteNames {names : List String} (h : ∀ name ∈ names, IsName name)
    (k : d.quoteNames names = .ok text) :
    ∃ texts, List.Forall₂ (IsNameText d) names texts ∧ text = ", ".intercalate texts := by
  unfold Dialect.quoteNames at k
  obtain ⟨texts, htexts, k⟩ := exists_of_bind k
  refine ⟨texts, ?_, (Except.ok.inj k).symm⟩
  exact ((List.forall₂_and_left _ _).2 ⟨h, forall₂_of_mapM htexts⟩).imp
    fun _ _ ⟨hn, ht⟩ => isNameText_of_quoteName hn.isDottedName ht

theorem isPrimaryKeyText_of_primaryKeyEntry (h : IsPlainEntry entry)
    (k : d.primaryKeyEntry entry = .ok texts) : IsPrimaryKeyText d entry.columns texts := by
  unfold Dialect.primaryKeyEntry at k
  by_cases hany : entry.columns.any (·.primaryKey)
  · rw [if_pos hany] at k
    obtain ⟨_, _, k⟩ := exists_of_bind k
    obtain ⟨text, htext, k⟩ := exists_of_bind k
    obtain rfl := Except.ok.inj k
    have hperm := h.perm_keyColumns
    have hplain : ∀ name ∈ entry.keyColumns.map CatalogColumn.name, IsName name := by
      intro name hm
      obtain ⟨c, hc, rfl⟩ := List.mem_map.1 hm
      exact (h.columns c (List.mem_of_mem_filter (hperm.mem_iff.1 hc))).name
    obtain ⟨names, hnames, rfl⟩ := isNameTexts_of_quoteNames hplain htext
    refine .named (fun hnil => ?_) (hperm.map _) hnames
    obtain ⟨c, hc, hk⟩ := List.any_eq_true.1 hany
    have hm := hperm.mem_iff.2 (List.mem_filter.2 ⟨hc, hk⟩)
    rw [List.map_eq_nil_iff.1 hnil] at hm
    cases hm
  · rw [if_neg hany] at k
    obtain rfl := Except.ok.inj k
    exact .none fun c hc => Bool.eq_false_iff.2 fun hk => hany (List.any_eq_true.2 ⟨c, hc, hk⟩)

theorem isUniqueTexts_of_uniqueEntries (h : IsPlainEntry entry)
    (k : d.uniqueEntries entry = .ok texts) :
    List.Forall₂ (IsUniqueText d) (entry.columns.filter (·.unique)) texts := by
  have hplain : ∀ c ∈ entry.columns.filter (·.unique), IsName c.name := fun c hc =>
    (h.columns c (List.mem_of_mem_filter hc)).name
  refine ((List.forall₂_and_left _ _).2 ⟨hplain, forall₂_of_mapM k⟩).imp fun c text ⟨hc, ht⟩ => ?_
  obtain ⟨name, hname, ht⟩ := exists_of_bind ht
  obtain rfl := Except.ok.inj ht
  exact .written (isNameText_of_quoteName hc.isDottedName hname)

theorem isForeignKeyTexts_of_foreignKeyEntries (hd : d ≠ .sqlite) {keys : List ForeignKey}
    (h : ∀ key ∈ keys, IsPlainKey key) (k : d.foreignKeyEntries keys = .ok texts) :
    List.Forall₂ (IsForeignKeyText d) keys texts := by
  have hall : keys.filter
      (fun key => d != .sqlite || key.owner.schema == key.target.schema) = keys :=
    List.filter_eq_self.2 fun key _ => by simp [hd]
  have hreference (t : TableName) : d.quoteReference t = d.quoteQualified t.schema t.name := by
    cases d with
    | sqlite => exact absurd rfl hd
    | _ => rfl
  unfold Dialect.foreignKeyEntries at k
  simp only [hall] at k
  refine ((List.forall₂_and_left _ _).2 ⟨h, forall₂_of_mapM k⟩).imp fun key text ⟨hk, ht⟩ => ?_
  obtain ⟨column, hcolumn, ht⟩ := exists_of_bind ht
  obtain ⟨target, htarget, ht⟩ := exists_of_bind ht
  obtain ⟨targetColumn, htargetColumn, ht⟩ := exists_of_bind ht
  obtain rfl := Except.ok.inj ht
  rw [hreference] at htarget
  exact .written (isNameText_of_quoteName hk.column.isDottedName hcolumn)
    (isReferenceText_of_quoteQualified hk.target.schema hk.target.name htarget)
    (isNameText_of_quoteName hk.targetColumn.isDottedName htargetColumn)

end Keys

section Tables

variable {d : Dialect}

theorem strip_lines (l : Layout) : strip ("\n" ++ l.text ++ "\n\n") = l.text := by
  have hfirm : Text.Firm l.text.toList := by
    have h : Text.Firm ("CREATE TABLE ".toList ++ ((l.name ++ " (" ++
        ", ".intercalate (l.entries.map ("\n\t" ++ ·))).toList ++ "\n)".toList)) :=
      Text.firm_append ⟨'C', by decide, by decide⟩ _ ⟨')', by decide, by decide⟩
    simpa [Layout.text] using h
  have ht : Text.trim (['\n'] ++ (l.text.toList ++ ['\n', '\n'])) = l.text.toList :=
    hfirm.trim_between (by decide) (by decide)
  have hlines : ("\n" ++ l.text ++ "\n\n").toList = ['\n'] ++ (l.text.toList ++ ['\n', '\n']) := by
    simp
  rw [strip, hlines, ht, String.ofList_toList]

theorem exists_layout_of_tableText {keys : List ForeignKey} {entry : CatalogTable} {text : String}
    (hc : d.tableComment entry = "") (k : d.tableText keys entry = .ok text) :
    ∃ l : Layout, strip text = l.text ∧
      d.quoteQualified entry.name.schema entry.name.name = .ok l.name ∧
      entry.columns.mapM (d.columnEntry entry) = .ok l.columns ∧
      d.primaryKeyEntry entry = .ok l.primaryKey ∧ d.uniqueEntries entry = .ok l.uniques ∧
      d.foreignKeyEntries keys = .ok l.foreignKeys := by
  unfold Dialect.tableText at k
  obtain ⟨name, hname, k⟩ := exists_of_bind k
  obtain ⟨columns, hcolumns, k⟩ := exists_of_bind k
  obtain ⟨primary, hprimary, k⟩ := exists_of_bind k
  obtain ⟨unique, hunique, k⟩ := exists_of_bind k
  obtain ⟨foreign, hforeign, k⟩ := exists_of_bind k
  have htext := Except.ok.inj k
  let l : Layout := ⟨name, columns, primary, unique, foreign⟩
  refine ⟨l, ?_, hname, hcolumns, hprimary, hunique, hforeign⟩
  have hlines : text = "\n" ++ l.text ++ "\n\n" := by
    rw [← htext, hc]
    exact String.toList_inj.1 (by simp [l, Layout.text, Layout.entries])
  rw [hlines, strip_lines]

theorem compiler_laysOutTables (hd : d ≠ .sqlite) : compiler.LaysOutTables d := by
  intro keys entry text h hkeys k
  have hcomment : d.tableComment entry = "" := by
    unfold Dialect.tableComment
    rw [h.comment]
    cases d <;> rfl
  obtain ⟨l, htext, hname, hcolumns, hprimary, hunique, hforeign⟩ :=
    exists_layout_of_tableText hcomment k
  have hcolumns : List.Forall₂ (IsColumnText d) entry.columns l.columns :=
    ((List.forall₂_and_left _ _).2 ⟨h.columns, forall₂_of_mapM hcolumns⟩).imp
      fun _ _ ⟨hc, ht⟩ => isColumnText_of_columnEntry hd hc ht
  exact ⟨l, ⟨isReferenceText_of_quoteQualified h.name.schema h.name.name hname, hcolumns,
    isPrimaryKeyText_of_primaryKeyEntry h hprimary, isUniqueTexts_of_uniqueEntries h hunique,
    isForeignKeyTexts_of_foreignKeyEntries hd hkeys hforeign⟩, htext⟩

end Tables

end SchemaText.Export
