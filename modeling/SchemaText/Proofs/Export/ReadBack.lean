import SchemaText.Proofs.Export.DefinitionText
import SchemaText.Proofs.Sql.WrittenScript
/-! The definitions of a plain schema, read back as its tables and foreign keys. -/

namespace SchemaText.Export

open Sql.Written (restText scriptText)

section Scripts

theorem cons_restText (tables : List Sql.Written.Table) :
    ';' :: restText tables =
      tables.flatMap (fun t => ";\n\n".toList ++ t.stem) ++ ";\n".toList := by
  induction tables with
  | nil => rfl
  | cons t tables ih =>
    have hrest : restText (t :: tables) = '\n' :: '\n' :: (t.stem ++ ';' :: restText tables) := by
      simp [restText, Sql.Written.Table.chars]
    rw [hrest, ih, List.flatMap_cons]
    simp

theorem scriptText_eq {tables : List Sql.Written.Table} {texts : List String}
    (h : tables.map Sql.Written.Table.stem = texts.map String.toList) :
    scriptText tables =
      (if texts.isEmpty then "" else ";\n\n".intercalate texts ++ ";\n").toList := by
  cases tables with
  | nil =>
    obtain rfl : texts = [] := List.map_eq_nil_iff.1 h.symm
    rfl
  | cons t tables =>
    have hne : texts.isEmpty = false := by
      cases texts with
      | nil => cases h
      | cons text texts => rfl
    have hstem : scriptText (t :: tables) = t.stem ++ ';' :: restText tables := by
      simp [scriptText, Sql.Written.Table.chars]
    rw [hstem, cons_restText, hne, if_neg Bool.false_ne_true, String.toList_append,
      String.toList_intercalate, ← h, List.map_cons, Text.intercalate_cons, List.flatMap_map,
      List.append_assoc]

end Scripts

section Reading

variable {lib : Library} {d : Dialect} {schema : Schema}

theorem createTypes_nil (lib : Library) (d : Dialect) : lib.createTypes d [] = .ok [] := by
  cases d <;> rfl

theorem IsCatalog.indexes_eq {catalog : Catalog} (hc : IsCatalog schema catalog) :
    (catalog.tables.flatMap fun entry =>
      entry.indexes.map fun index => (entry.name, index)) = [] := by
  refine List.flatMap_eq_nil_iff.2 fun entry he => ?_
  obtain ⟨_, _, hentry⟩ := exists_left_of_mem hc.tables he
  rw [hentry.indexes]
  rfl

theorem IsCatalog.exists_table {catalog : Catalog} (hc : IsCatalog schema catalog)
    (hd : lib.LaysOutTables d) {entry : CatalogTable} (he : entry ∈ catalog.tables) {text : String}
    (k : lib.createTable d (catalog.keysOf entry) entry = .ok text) :
    ∃ t : Sql.Written.Table, t.stem = text.toList ∧
      (TableShape.ofTable t.table, t.relationships) =
        (TableShape.ofEntry entry, (catalog.keysOf entry).map ForeignKey.relationship) := by
  obtain ⟨table, _, hentry⟩ := exists_left_of_mem hc.tables he
  have hkeys : ∀ key ∈ catalog.keysOf entry, IsPlainKey key ∧ key.owner.key = table.id := by
    intro key hk
    obtain ⟨hm, howner⟩ := List.mem_filter.1 hk
    exact ⟨hc.plain key hm, hentry.key_eq ▸ beq_iff_eq.1 howner⟩
  unfold Library.createTable at k
  obtain ⟨written, hw, k⟩ := exists_of_bind k
  obtain rfl := Except.ok.inj k
  obtain ⟨l, hl, hstrip⟩ := hd _ _ _ hentry.isPlainEntry (fun key hk => (hkeys key hk).1) hw
  obtain ⟨t, hstem, hshape, hrelationships⟩ := hl.exists_table hentry hkeys
  exact ⟨t, by rw [hstem, hstrip], Prod.ext hshape hrelationships⟩

theorem exists_tables_of_statements (hl : lib.DefinesTables) (hd : lib.LaysOutTables d)
    (h : IsPlainSchema schema) {texts : List String} (k : lib.statements d schema = .ok texts) :
    ∃ tables : List Sql.Written.Table,
      tables.map Sql.Written.Table.stem = texts.map String.toList ∧
      tables.map (fun t => (TableShape.ofTable t.table, t.relationships)) =
        schema.tables.map fun table =>
          (TableShape.ofDefined table, keyRelationships schema table) := by
  unfold Library.statements at k
  obtain ⟨catalog, hcatalog, k⟩ := exists_of_bind k
  have hc := h.isCatalog hl hcatalog
  rw [h.enumerations, createTypes_nil, hc.indexes_eq] at k
  obtain ⟨types, htypes, k⟩ := exists_of_bind k
  obtain ⟨definitions, hdefinitions, k⟩ := exists_of_bind k
  obtain ⟨indexes, hindexes, k⟩ := exists_of_bind k
  obtain rfl : [] = types := Except.ok.inj htypes
  obtain rfl : [] = indexes := Except.ok.inj hindexes
  obtain rfl : definitions = texts := by simpa using Except.ok.inj k
  have hentries : (schema.tables.map fun table =>
      (TableShape.ofDefined table, keyRelationships schema table)) =
      catalog.tables.map fun entry =>
        (TableShape.ofEntry entry, (catalog.keysOf entry).map ForeignKey.relationship) :=
    map_eq_of_forall₂ hc.tables fun table entry he => by rw [he.ofEntry_eq, hc.keys he]
  rw [hentries]
  exact exists_written_of_forall₂ (forall₂_of_mapM hdefinitions)
    fun entry he _ ht => hc.exists_table hd he ht

/-- The script that a plain schema is written as is read back as the schema, whatever library
defines the tables of the schema and lays them out as it is documented. -/
theorem isReadBack_of_render (hl : lib.DefinesTables) (hd : lib.LaysOutTables d)
    (h : IsPlainSchema schema) {text : String} (k : lib.render d schema = .ok text) :
    IsReadBack schema (Sql.read text) := by
  unfold Library.render at k
  obtain ⟨texts, htexts, k⟩ := exists_of_bind k
  have htext := Except.ok.inj k
  obtain ⟨tables, hstems, hview⟩ := exists_tables_of_statements hl hd h htexts
  have hshapes : (tables.map Sql.Written.Table.table).map TableShape.ofTable =
      schema.tables.map TableShape.ofDefined := by
    simpa [Function.comp_def] using congrArg (List.map Prod.fst) hview
  have hrelationships : tables.map Sql.Written.Table.relationships =
      schema.tables.map (keyRelationships schema) := by
    simpa [Function.comp_def] using congrArg (List.map Prod.snd) hview
  have hids : tables.map (fun t => t.id.text) = schema.tables.map Table.id := by
    simpa [Function.comp_def, TableShape.ofTable, TableShape.ofDefined,
      Sql.Written.Table.table] using congrArg (List.map TableShape.id) hshapes
  have hnodup : (tables.map fun t => t.id.text).Nodup := hids ▸ h.nodup
  have hread := Sql.Written.read_tables hnodup
  rw [scriptText_eq hstems, String.ofList_toList, htext] at hread
  rw [hread]
  refine ⟨rfl, hshapes, ?_⟩
  rw [List.flatMap_def, List.flatMap_def, hrelationships]

end Reading

section Shop

def userTable : Table where
  id := "user"
  name := "user"
  columns := [
    { name := "id", type := "int", primaryKey := true, autoIncrement := true },
    { name := "Name", type := "character varying(20)", notNull := true, unique := true }]

def orderTable : Table where
  id := "shop.Order"
  name := "Order"
  schema := some "shop"
  columns := [
    { name := "number", type := "BIGINT", primaryKey := true },
    { name := "buyer", type := "integer", primaryKey := true },
    { name := "total", type := "decimal(10, -2)" },
    { name := "precedes", type := "bigint" }]

def shopSchema : Schema where
  tables := [userTable, orderTable]
  relationships := [
    { fromTable := "user", fromColumn := "id", toTable := "shop.Order", toColumn := "buyer" },
    { fromTable := "user", fromColumn := "id", toTable := "shop.Order", toColumn := "seller" },
    { fromTable := "shop.Order", fromColumn := "precedes", toTable := "shop.Order"
      toColumn := "number", cardinality := .oneToOne }]

def shopScript : String :=
  "CREATE TABLE \"user\" (\n\tid SERIAL NOT NULL, \n\t\"Name\" VARCHAR(20) NOT NULL, \n\t" ++
  "PRIMARY KEY (id), \n\tUNIQUE (\"Name\")\n);\n\n" ++
  "CREATE TABLE shop.\"Order\" (\n\tnumber BIGINT NOT NULL, \n\tbuyer INTEGER NOT NULL, \n\t" ++
  "total decimal(10, -2), \n\tprecedes BIGINT, \n\tPRIMARY KEY (number, buyer), \n\t" ++
  "FOREIGN KEY(buyer) REFERENCES \"user\" (id), \n\t" ++
  "FOREIGN KEY(precedes) REFERENCES shop.\"Order\" (number)\n);\n"

theorem isPlainTable_userTable : IsPlainTable userTable where
  id := rfl
  schema _ h := nomatch h
  name := by decide
  columns_ne := by decide
  nodup := by decide
  columns := by
    have hlength : IsKnownType "character varying(20)" :=
      .applied "character varying" (by decide +kernel)
        [⟨0, none, ['2', '0'], 0, by decide, by decide, by decide⟩] (by decide +kernel)
    refine List.forall_mem_cons.2 ⟨?_, List.forall_mem_cons.2 ⟨?_, List.forall_mem_nil _⟩⟩
    · exact ⟨by decide, by decide +kernel, .name (by decide +kernel), rfl, rfl⟩
    · exact ⟨by decide, by decide +kernel, hlength, rfl, rfl⟩
  indexes := rfl
  note := rfl

theorem isPlainTable_orderTable : IsPlainTable orderTable where
  id := by decide
  schema schema h := by
    obtain rfl : "shop" = schema := Option.some.inj h
    decide
  name := by decide
  columns_ne := by decide
  nodup := by decide
  columns := by
    have hcapital : IsKnownType "BIGINT" :=
      .recognised (fun _ => .bigInteger) (by simp [TypeName.makers]) [] (by decide +kernel)
    have hsigned : IsKnownType "decimal(10, -2)" :=
      .applied "decimal" (by decide +kernel)
        [⟨0, none, ['1', '0'], 0, by decide, by decide, by decide⟩,
          ⟨1, some '-', ['2'], 0, by decide, by decide, by decide⟩] (by decide +kernel)
    simp only [orderTable, List.forall_mem_cons]
    refine ⟨?_, ?_, ?_, ?_, List.forall_mem_nil _⟩
    · exact ⟨by decide, by decide +kernel, hcapital, rfl, rfl⟩
    · exact ⟨by decide, by decide +kernel, .name (by decide +kernel), rfl, rfl⟩
    · exact ⟨by decide, by decide +kernel, hsigned, rfl, rfl⟩
    · exact ⟨by decide, by decide +kernel, .name (by decide +kernel), rfl, rfl⟩
  indexes := rfl
  note := rfl

theorem isPlainSchema_shopSchema : IsPlainSchema shopSchema where
  enumerations := rfl
  nodup := by decide
  tables := List.forall_mem_cons.2 ⟨isPlainTable_userTable,
    List.forall_mem_cons.2 ⟨isPlainTable_orderTable, List.forall_mem_nil _⟩⟩

theorem render_shopSchema : compiler.render .postgresql shopSchema = .ok shopScript := by
  decide +kernel

theorem isReadBack_shopScript :
    compiler.DefinesTables ∧ compiler.LaysOutTables .postgresql ∧ IsPlainSchema shopSchema ∧
      compiler.render .postgresql shopSchema = .ok shopScript ∧
      IsReadBack shopSchema (Sql.read shopScript) := by
  have hlayout : compiler.LaysOutTables .postgresql := compiler_laysOutTables (by decide)
  exact ⟨compiler_definesTables, hlayout, isPlainSchema_shopSchema, render_shopSchema,
    isReadBack_of_render compiler_definesTables hlayout isPlainSchema_shopSchema
      render_shopSchema⟩

end Shop

end SchemaText.Export
