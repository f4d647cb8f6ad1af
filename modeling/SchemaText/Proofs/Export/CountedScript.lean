import SchemaText.Proofs.Export.CountingColumn
/-! Scripts of tables that count: if the first column that may count leads its name in every table,
no script fails for the type of a column that counts. -/

namespace SchemaText.Export

/-- If it fails, then not for the type of a column that counts. -/
def FailsElsewhere {α : Type} (x : Except Fault α) : Prop :=
  ∀ fault, x = .error fault → fault.isCounting = false

section Chains

variable {α β : Type} {x : Except Fault α} {fault : Fault}

theorem failsElsewhere_ok (a : α) : FailsElsewhere (.ok a) :=
  nofun

theorem failsElsewhere_error (h : fault.isCounting = false) :
    FailsElsewhere (.error fault : Except Fault α) := by
  intro other ho
  obtain rfl := Except.error.inj ho
  exact h

theorem FailsElsewhere.bind {f : α → Except Fault β} (h : FailsElsewhere x)
    (k : ∀ a, x = .ok a → FailsElsewhere (f a)) : FailsElsewhere (x >>= f) := by
  cases x with
  | error fault => exact failsElsewhere_error (h fault rfl)
  | ok a => exact k a rfl

theorem failsElsewhere_mapM {f : α → Except Fault β} {xs : List α}
    (h : ∀ x ∈ xs, FailsElsewhere (f x)) : FailsElsewhere (xs.mapM f) := by
  induction xs with
  | nil => exact failsElsewhere_ok []
  | cons x xs ih =>
    rw [List.mapM_cons]
    refine (h x List.mem_cons_self).bind fun y _ => ?_
    refine (ih fun x hx => h x (List.mem_cons_of_mem _ hx)).bind fun ys _ => ?_
    exact failsElsewhere_ok (y :: ys)

theorem failsElsewhere_foldlM {f : β → α → Except Fault β} (h : ∀ b a, FailsElsewhere (f b a))
    (b : β) (xs : List α) : FailsElsewhere (xs.foldlM f b) := by
  induction xs generalizing b with
  | nil => exact failsElsewhere_ok b
  | cons x xs ih =>
    rw [List.foldlM_cons]
    exact (h b x).bind fun c _ => ih c

theorem FailsElsewhere.within (h : FailsElsewhere x) (table column : String) :
    FailsElsewhere (x.mapError (Fault.within table column)) := by
  cases x with
  | ok a => exact failsElsewhere_ok a
  | error fault =>
    refine failsElsewhere_error ?_
    unfold Fault.within
    split
    · rfl
    · exact h fault rfl

end Chains

section Types

theorem failsElsewhere_readNumber (written : List Char) :
    FailsElsewhere (TypeName.readNumber written) := by
  unfold TypeName.readNumber
  dsimp only
  split
  · exact failsElsewhere_error rfl
  · split
    · exact failsElsewhere_error rfl
    · split
      · exact failsElsewhere_error rfl
      · exact failsElsewhere_ok _

theorem failsElsewhere_read (enumerations : List Enumeration) (type : String) :
    FailsElsewhere (TypeName.read enumerations type) := by
  unfold TypeName.read
  split
  · exact failsElsewhere_ok _
  · unfold TypeName.readNamed
    split
    · exact failsElsewhere_ok _
    · refine (failsElsewhere_mapM fun part _ => failsElsewhere_readNumber part).bind fun _ _ => ?_
      split <;> exact failsElsewhere_ok _

theorem failsElsewhere_autoIncrementColumn? (enumerations : List Enumeration)
    (columns : List Column) : FailsElsewhere (autoIncrementColumn? enumerations columns) := by
  induction columns with
  | nil => exact failsElsewhere_ok none
  | cons column columns ih =>
    unfold autoIncrementColumn?
    split
    · refine (failsElsewhere_read enumerations column.type).bind fun type _ => ?_
      split
      · exact failsElsewhere_ok _
      · exact ih
    · exact ih

theorem failsElsewhere_columnsOf (enumerations : List Enumeration) (table : Table) :
    FailsElsewhere (columnsOf enumerations table) := by
  refine (failsElsewhere_autoIncrementColumn? enumerations _).bind fun counting _ => ?_
  refine failsElsewhere_mapM fun column _ => ?_
  exact (failsElsewhere_read enumerations column.type).bind fun _ _ => failsElsewhere_ok _

end Types

section Library

variable {lib : Library}

/-- The library only fails for the type of a column that counts where it defines a table that has
such a column in its primary key. -/
structure Library.ChecksCounting (lib : Library) : Prop where
  quote : ∀ d name, FailsElsewhere (lib.quote d name)
  quoteSchema : ∀ d name, FailsElsewhere (lib.quoteSchema d name)
  define : ∀ known table, FailsElsewhere (lib.define known table)
  tableText : ∀ d keys table,
    (∀ c ∈ table.columns, c.primaryKey → c.autoIncrement → c.type.isInteger) →
    FailsElsewhere (lib.tableText d keys table)
  indexText : ∀ d table index, FailsElsewhere (lib.indexText d table index)

theorem Library.ChecksCounting.quoteQualified (hl : lib.ChecksCounting) (d : Dialect)
    (schema : Option String) (name : String) :
    FailsElsewhere (lib.quoteQualified d schema name) := by
  refine (hl.quote d name).bind fun quoted _ => ?_
  cases schema with
  | none => exact failsElsewhere_ok quoted
  | some schema =>
    dsimp only
    split
    · exact failsElsewhere_ok quoted
    · exact (hl.quoteSchema d schema).bind fun _ _ => failsElsewhere_ok _

theorem Library.ChecksCounting.createTypes (hl : lib.ChecksCounting) (d : Dialect)
    (enumerations : List Enumeration) : FailsElsewhere (lib.createTypes d enumerations) := by
  cases d with
  | mysql | sqlite => exact failsElsewhere_ok []
  | postgresql =>
    exact failsElsewhere_mapM fun e _ =>
      (hl.quoteQualified _ _ _).bind fun _ _ => failsElsewhere_ok _

theorem Library.ChecksCounting.ofSchema (hl : lib.ChecksCounting) (schema : Schema) :
    FailsElsewhere (Catalog.ofSchema lib schema) := by
  refine (failsElsewhere_foldlM (fun catalog table => ?_) _ _).bind fun _ _ =>
    failsElsewhere_ok _
  rw [addTable_eq]
  split
  · exact failsElsewhere_ok _
  · refine (failsElsewhere_columnsOf _ table).bind fun columns _ => ?_
    exact (hl.define _ _).bind fun _ _ => failsElsewhere_ok _

end Library

section Tables

variable {lib : Library} {schema : Schema} {catalog : Catalog} {table : CatalogTable}

theorem exists_columnsOf (hd : lib.DefinesTables) (k : Catalog.ofSchema lib schema = .ok catalog)
    (ht : table ∈ catalog.tables) :
    ∃ source ∈ schema.tables, columnsOf schema.enumerations source = .ok table.columns := by
  unfold Catalog.ofSchema at k
  obtain ⟨filled, hfilled, k⟩ := exists_of_bind k
  obtain rfl := Except.ok.inj k
  refine holds_of_foldlM_mem (P := fun catalog => ∀ entry ∈ catalog.tables,
    ∃ source ∈ schema.tables, columnsOf schema.enumerations source = .ok entry.columns)
    (fun before source hs after hbefore hafter => ?_) (by simp) hfilled table ht
  rw [addTable_eq] at hafter
  split at hafter
  · obtain rfl := Except.ok.inj hafter
    exact hbefore
  · obtain ⟨columns, hcolumns, hregister⟩ := exists_of_bind hafter
    exact forall_columns_of_register hd (P := fun columns => ∃ source ∈ schema.tables,
      columnsOf schema.enumerations source = .ok columns) hbefore ⟨source, hs, hcolumns⟩ hregister

theorem isInteger_of_leads {enumerations : List Enumeration} {source : Table}
    (k : columnsOf enumerations source = .ok table.columns)
    (h : LeadsItsName enumerations source.columns) {c : CatalogColumn} (hc : c ∈ table.columns)
    (hm : c.autoIncrement) : c.type.isInteger := by
  obtain ⟨_, _, hbuilt, hiff⟩ := exists_kept_of_marked k hc hm
  exact isInteger_of_isEntitled hbuilt (hiff.2 h)

theorem failsElsewhere_render (hd : lib.DefinesTables) (hl : lib.ChecksCounting) (d : Dialect)
    (h : ∀ t ∈ schema.tables, LeadsItsName schema.enumerations t.columns) :
    FailsElsewhere (lib.render d schema) := by
  refine FailsElsewhere.bind ?_ fun _ _ => failsElsewhere_ok _
  refine (hl.ofSchema schema).bind fun catalog hcatalog => ?_
  refine (hl.createTypes d _).bind fun types _ => ?_
  refine (failsElsewhere_mapM fun table ht => ?_).bind fun tables _ => ?_
  · obtain ⟨source, hs, hcolumns⟩ := exists_columnsOf hd hcatalog ht
    refine (hl.tableText d _ table fun c hc _ hm => ?_).bind fun _ _ => failsElsewhere_ok _
    exact isInteger_of_leads hcolumns (h source hs) hc hm
  · refine (failsElsewhere_mapM fun index _ => ?_).bind fun _ _ => failsElsewhere_ok _
    exact (hl.indexText d index.1 index.2).bind fun _ _ => failsElsewhere_ok _

end Tables

section Compiler

variable (d : Dialect)

theorem failsElsewhere_quoteName (name : String) : FailsElsewhere (d.quoteName name) := by
  unfold Dialect.quoteName
  split
  · exact failsElsewhere_error rfl
  · exact failsElsewhere_ok _

theorem failsElsewhere_quoteNames (names : List String) : FailsElsewhere (d.quoteNames names) :=
  (failsElsewhere_mapM fun name _ => failsElsewhere_quoteName d name).bind fun _ _ =>
    failsElsewhere_ok _

theorem failsElsewhere_quoteQualified (schema : Option String) (name : String) :
    FailsElsewhere (d.quoteQualified schema name) := by
  refine (failsElsewhere_quoteName d name).bind fun quoted _ => ?_
  cases schema with
  | none => exact failsElsewhere_ok quoted
  | some schema =>
    dsimp only
    split
    · exact failsElsewhere_ok quoted
    · exact (failsElsewhere_quoteName d schema).bind fun _ _ => failsElsewhere_ok _

theorem failsElsewhere_quoteReference (t : TableName) : FailsElsewhere (d.quoteReference t) := by
  cases d with
  | sqlite => exact failsElsewhere_quoteName _ _
  | postgresql | mysql => exact failsElsewhere_quoteQualified _ _ _

theorem failsElsewhere_renderType (type : DataType) : FailsElsewhere (type.render d) := by
  cases d with
  | sqlite => exact failsElsewhere_ok _
  | mysql =>
    unfold DataType.render DataType.renderMysql
    dsimp only
    split <;> first | exact failsElsewhere_error rfl | exact failsElsewhere_ok _
  | postgresql =>
    unfold DataType.render DataType.renderPostgresql
    dsimp only
    split
    case h_6 =>
      split
      · exact failsElsewhere_error rfl
      · exact failsElsewhere_quoteQualified _ _ _
    all_goals exact failsElsewhere_ok _

theorem canIncrement_of_isInteger {type : DataType} (h : type.isInteger) : type.canIncrement := by
  unfold DataType.canIncrement
  split
  · rfl
  · rfl
  · exact h

theorem checkCounting_eq {table : CatalogTable}
    (h : ∀ c ∈ table.columns, c.primaryKey → c.autoIncrement → c.type.isInteger) :
    table.checkCounting = .ok () := by
  unfold CatalogTable.checkCounting
  split
  · next column hcounting =>
    unfold CatalogTable.counting? at hcounting
    have hmarked := List.find?_some hcounting
    obtain ⟨hk, hm⟩ := Bool.and_eq_true_iff.1 hmarked
    have hinteger := h column (List.mem_of_find?_eq_some hcounting) hk hm
    rw [if_pos (canIncrement_of_isInteger hinteger)]
  · rfl

variable {table : CatalogTable}

theorem failsElsewhere_columnEntry (h : table.checkCounting = .ok ()) (column : CatalogColumn) :
    FailsElsewhere (d.columnEntry table column) := by
  refine FailsElsewhere.within ?_ _ _
  have hcheck : FailsElsewhere table.checkCounting := h ▸ failsElsewhere_ok ()
  cases d with
  | postgresql =>
    refine (failsElsewhere_quoteName _ _).bind fun name _ => ?_
    -- The column of a primary key is only written when the check has passed.
    have hrest : ∀ u : Unit, FailsElsewhere (if column.primaryKey && column.autoIncrement then
        .ok (name ++ " " ++ column.type.serial ++ Dialect.notNull column)
      else do
        return name ++ " " ++ (← column.type.render .postgresql) ++
          Dialect.postgresql.defaultPart column ++ Dialect.notNull column) := by
      intro _
      split
      · exact failsElsewhere_ok _
      · exact (failsElsewhere_renderType _ _).bind fun _ _ => failsElsewhere_ok _
    dsimp only
    split
    · exact hcheck.bind fun u _ => hrest u
    · exact hrest ()
  | mysql =>
    refine (failsElsewhere_quoteName _ _).bind fun name _ => ?_
    refine (failsElsewhere_renderType _ _).bind fun type _ => ?_
    exact hcheck.bind fun _ _ => failsElsewhere_ok _
  | sqlite =>
    refine (failsElsewhere_renderType _ _).bind fun type _ => ?_
    refine (failsElsewhere_quoteName _ _).bind fun name _ => ?_
    dsimp only
    split
    · exact failsElsewhere_error rfl
    · exact failsElsewhere_ok _

theorem failsElsewhere_tableText (h : table.checkCounting = .ok ()) (keys : List ForeignKey) :
    FailsElsewhere (d.tableText keys table) := by
  refine (failsElsewhere_quoteQualified d _ _).bind fun name _ => ?_
  refine (failsElsewhere_mapM fun column _ =>
    failsElsewhere_columnEntry d h column).bind fun columns _ => ?_
  have hprimary : FailsElsewhere (d.primaryKeyEntry table) := by
    unfold Dialect.primaryKeyEntry
    rw [h]
    split
    · exact (failsElsewhere_quoteNames d _).bind fun _ _ => failsElsewhere_ok _
    · exact failsElsewhere_ok _
  refine hprimary.bind fun primary _ => ?_
  refine (failsElsewhere_mapM fun column _ =>
    (failsElsewhere_quoteName d _).bind fun _ _ => failsElsewhere_ok _).bind fun unique _ => ?_
  refine (failsElsewhere_mapM fun key _ => ?_).bind fun foreign _ => failsElsewhere_ok _
  refine (failsElsewhere_quoteName d _).bind fun column _ => ?_
  refine (failsElsewhere_quoteReference d _).bind fun target _ => ?_
  exact (failsElsewhere_quoteName d _).bind fun _ _ => failsElsewhere_ok _

theorem failsElsewhere_indexText (name : TableName) (index : CatalogIndex) :
    FailsElsewhere (d.indexText name index) := by
  have hlength : FailsElsewhere (d.checkLength index.name) := by
    unfold Dialect.checkLength
    split
    · exact failsElsewhere_error rfl
    · exact failsElsewhere_ok _
  have hrest : ∀ written : String, FailsElsewhere (do
      let tableName ← d.quoteReference name
      let columns ← d.quoteNames index.columns
      return "CREATE " ++ (if index.unique then "UNIQUE " else "") ++ "INDEX " ++ written ++
        " ON " ++ tableName ++ " (" ++ columns ++ ")") := fun _ =>
    (failsElsewhere_quoteReference d name).bind fun _ _ =>
      (failsElsewhere_quoteNames d _).bind fun _ _ => failsElsewhere_ok _
  refine hlength.bind fun _ _ => ?_
  cases d with
  | sqlite => exact (failsElsewhere_quoteQualified _ _ _).bind fun written _ => hrest written
  | postgresql | mysql => exact (failsElsewhere_quoteName _ _).bind fun written _ => hrest written

theorem compiler_checksCounting : compiler.ChecksCounting where
  quote := failsElsewhere_quoteName
  quoteSchema := failsElsewhere_quoteName
  define known table := by
    show FailsElsewhere (Compiler.define known table)
    unfold Compiler.define
    split
    · split
      · exact failsElsewhere_ok _
      · exact failsElsewhere_error rfl
    · split
      · exact failsElsewhere_error rfl
      · exact failsElsewhere_ok _
  tableText d keys table h := failsElsewhere_tableText d (checkCounting_eq h) keys
  indexText := failsElsewhere_indexText

end Compiler

section Counting

/-- At most one column that is built is marked, and it may count if the first column that may count
leads its name, and only then. If that one does in every table, no script fails for the type of a
column that counts, whatever library checks it. -/
theorem marked_columnsOf {schema : Schema} {table : Table} {entries : List CatalogColumn}
    (k : columnsOf schema.enumerations table = .ok entries) (d : Dialect) :
    (entries.filter CatalogColumn.autoIncrement).length ≤ 1 ∧
      (∀ entry ∈ entries, entry.autoIncrement →
        ∃ column, table.columns.find? (·.name == entry.name) = some column ∧
          (isEntitled schema.enumerations column ↔
            LeadsItsName schema.enumerations table.columns)) ∧
      (∀ lib : Library, lib.DefinesTables → lib.ChecksCounting →
        (∀ t ∈ schema.tables, LeadsItsName schema.enumerations t.columns) →
        FailsElsewhere (lib.render d schema)) := by
  refine ⟨length_marked_le_one k, fun entry he hm => ?_, fun lib hd hl =>
    failsElsewhere_render hd hl d⟩
  obtain ⟨column, hcolumn, _, hiff⟩ := exists_kept_of_marked k he hm
  exact ⟨column, hcolumn, hiff⟩

def countingTable : Table where
  id := "t"
  name := "t"
  columns := [{ name := "id", type := "int", primaryKey := true, autoIncrement := true },
    { name := "id", type := "text", primaryKey := true },
    { name := "note", type := "text", autoIncrement := true }]

def miscountingTable : Table where
  id := "t"
  name := "t"
  columns := [{ name := "id", type := "text", primaryKey := true },
    { name := "id", type := "int", primaryKey := true, autoIncrement := true }]

theorem marked_countingTable : compiler.DefinesTables ∧ compiler.ChecksCounting ∧ ∃ entries,
    columnsOf [] countingTable = .ok entries ∧ (∃ entry ∈ entries, entry.autoIncrement) ∧
      (∀ t ∈ [countingTable], LeadsItsName [] t.columns) ∧
      ((entries.filter CatalogColumn.autoIncrement).length ≤ 1 ∧
        (∀ entry ∈ entries, entry.autoIncrement →
          ∃ column, countingTable.columns.find? (·.name == entry.name) = some column ∧
            (isEntitled [] column ↔ LeadsItsName [] countingTable.columns)) ∧
        (∀ lib : Library, lib.DefinesTables → lib.ChecksCounting →
          (∀ t ∈ [countingTable], LeadsItsName [] t.columns) →
          FailsElsewhere (lib.render .postgresql { tables := [countingTable] }))) := by
  refine ⟨compiler_definesTables, compiler_checksCounting, [
    { name := "id", type := .integer, primaryKey := true, nullable := false, unique := false
      autoIncrement := true, default := none, comment := none },
    { name := "note", type := .text, primaryKey := false, nullable := true, unique := false
      autoIncrement := false, default := none, comment := none }], ?_, by decide, ?_, ?_⟩
  · decide +kernel
  · decide +kernel
  · exact @marked_columnsOf
      { tables := [countingTable] } _ _ (by decide +kernel) .postgresql

/-- The column of text is marked, for which the script fails; without the other column of its name
it is written. -/
theorem not_entitled_miscountingTable :
    (∃ entries, columnsOf [] miscountingTable = .ok entries ∧ ∃ entry ∈ entries,
      entry.autoIncrement ∧ entry.type.isInteger = false) ∧
    miscountingTable.columns.find? (·.name == "id") =
      some { name := "id", type := "text", primaryKey := true } ∧
    isEntitled [] { name := "id", type := "text", primaryKey := true } = false ∧
    compiler.render .postgresql { tables := [miscountingTable] } =
      .error (.autoIncrementType "TEXT" "t" "id") ∧
    compiler.render .postgresql
        { tables := [{ miscountingTable with columns := miscountingTable.columns.take 1 }] } =
      .ok "CREATE TABLE t (\n\tid TEXT NOT NULL, \n\tPRIMARY KEY (id)\n);\n" := by
  refine ⟨⟨[
    { name := "id", type := .text, primaryKey := true, nullable := false, unique := false
      autoIncrement := true, default := none, comment := none }], ?_, by decide⟩, ?_, ?_, ?_, ?_⟩
  · decide +kernel
  · decide +kernel
  · decide +kernel
  · decide +kernel
  · decide +kernel

end Counting

end SchemaText.Export
