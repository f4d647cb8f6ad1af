import SchemaText.Proofs.Export.KnownType
import SchemaText.Proofs.Export.NameEnd
import SchemaText.Proofs.Export.Registration
import SchemaText.Proofs.Export.TableLayout
/-! The types that a PostgreSQL script creates: the type of a column is created once, before all
tables, if no two enumerations with values give types of one name. -/

namespace SchemaText.Export

section Meaning

/-- The schema and name of the type that an enumeration gives. -/
def typeName (e : Enumeration) : Option String × String :=
  let name := QualifiedName.splitLast e.name
  (writtenSchema name.1, name.2)

/-- The enumerations that give types. -/
def typedEnumerations (schema : Schema) : List Enumeration :=
  schema.enumerations.filter fun e => !e.values.isEmpty

def typeStatement (written : String) (values : List String) : String :=
  "CREATE TYPE " ++ written ++ " AS ENUM (" ++ ", ".intercalate (values.map valueLiteral) ++ ")"

def createsType (written statement : String) : Bool :=
  ("CREATE TYPE " ++ written ++ " AS ENUM (").toList.isPrefixOf statement.toList

def createsTable (statement : String) : Bool :=
  "CREATE TABLE ".toList.isPrefixOf statement.toList

/-- One statement creates the type, with these values, and no table is created before it. -/
def IsCreatedOnce (texts : List String) (written : String) (values : List String) : Prop :=
  ∃ before after, texts = before ++ typeStatement written values :: after ∧
    (∀ s ∈ before ++ after, createsType written s = false) ∧
    ∀ s ∈ before, createsTable s = false

/-- The library defines tables and indexes by statements that open as those of SQL do. -/
structure Library.OpensStatements (lib : Library) (d : Dialect) : Prop where
  table : ∀ keys entry text, lib.tableText d keys entry = .ok text →
    "CREATE TABLE ".toList <+: (strip text).toList
  index : ∀ table index text, lib.indexText d table index = .ok text →
    "CREATE INDEX ".toList <+: (strip text).toList ∨
      "CREATE UNIQUE INDEX ".toList <+: (strip text).toList

end Meaning

section Columns

variable {lib : Library} {enumerations : List Enumeration} {schema : Schema}
  {catalog next : Catalog}

def IsTyped (enumerations : List Enumeration) (catalog : Catalog) : Prop :=
  ∀ entry ∈ catalog.tables, ∀ column ∈ entry.columns,
    ∃ type, TypeName.read enumerations type = .ok column.type

theorem IsTyped.addTable (hl : lib.DefinesTables) {table : Table}
    (h : IsTyped enumerations catalog) (k : catalog.addTable lib enumerations table = .ok next) :
    IsTyped enumerations next := by
  rcases addTable_cases k with ⟨_, rfl⟩ | ⟨_, counting, columns, _, hcolumns, hregister⟩
  · exact h
  · refine forall_columns_of_register hl (P := fun columns => ∀ column ∈ columns,
      ∃ type, TypeName.read enumerations type = .ok column.type) h (fun column hm => ?_) hregister
    obtain ⟨source, _, hs⟩ := exists_left_of_mem (forall₂_of_mapM hcolumns) hm
    unfold CatalogColumn.ofColumn at hs
    obtain ⟨type, htype, hs⟩ := exists_of_bind hs
    obtain rfl := Except.ok.inj hs
    exact ⟨source.type, htype⟩

theorem isTyped_of_ofSchema (hl : lib.DefinesTables)
    (k : Catalog.ofSchema lib schema = .ok catalog) : IsTyped schema.enumerations catalog := by
  unfold Catalog.ofSchema at k
  obtain ⟨filled, hfilled, k⟩ := exists_of_bind k
  obtain rfl := Except.ok.inj k
  have hnone : IsTyped schema.enumerations {} := fun _ he => nomatch he
  have hall : IsTyped schema.enumerations filled :=
    holds_of_foldlM (fun _ _ _ h => h.addTable hl) hnone hfilled
  exact hall

theorem exists_enumeration_of_read {type : String} {name : Option String × String}
    {values : List String}
    (k : TypeName.read enumerations type = .ok (.enumeration name.1 name.2 values)) :
    ∃ e ∈ enumerations, (!e.values.isEmpty) = true ∧ typeName e = name ∧ e.values = values := by
  unfold TypeName.read at k
  split at k
  · next e he =>
    obtain ⟨hfound, hvalues⟩ := Option.filter_eq_some_iff.1 he
    have hm : e ∈ enumerations := List.mem_reverse.1 (List.mem_of_find?_eq_some hfound)
    have htype := Except.ok.inj k
    rw [TypeName.ofEnumeration] at htype
    injection htype with hs hn hv
    exact ⟨e, hm, hvalues, Prod.ext hs hn, hv⟩
  · rcases eq_raw_or_isKnown_of_read k with h | h <;> cases h

end Columns

section Statements

variable {lib : Library} {doubles : Char → Bool} {written text : String} {e f : Enumeration}

theorem exists_of_createsType (h : createsType written text) :
    ∃ rest, text.toList =
      "CREATE TYPE ".toList ++ (written.toList ++ ' ' :: ("AS ENUM (".toList ++ rest)) := by
  obtain ⟨rest, hr⟩ := List.isPrefixOf_iff_prefix.1 h
  exact ⟨rest, by simpa using hr.symm⟩

theorem toList_typeStatement (written : String) (values : List String) :
    ∃ rest, (typeStatement written values).toList =
      "CREATE TYPE ".toList ++ (written.toList ++ ' ' :: rest) := by
  simp [typeStatement]

theorem exists_of_createType (k : lib.createType .postgresql e = .ok text) :
    ∃ shown, lib.quoteQualified .postgresql (typeName e).1 (typeName e).2 = .ok shown ∧
      text = typeStatement shown e.values := by
  unfold Library.createType at k
  obtain ⟨shown, hshown, k⟩ := exists_of_bind k
  refine ⟨shown, ?_, (Except.ok.inj k).symm⟩
  rw [← hshown]
  exact quoteQualified_writtenSchema _ _ _ _

theorem writtenSchema_typeName (e : Enumeration) :
    writtenSchema (typeName e).1 = (typeName e).1 := by
  unfold typeName writtenSchema
  simp

theorem typeName_eq_of_createsType (hl : lib.TellsNames .postgresql doubles)
    (hw : lib.quoteQualified .postgresql (typeName e).1 (typeName e).2 = .ok written)
    (k : lib.createType .postgresql f = .ok text) (h : createsType written text) :
    typeName f = typeName e := by
  obtain ⟨shown, hshown, rfl⟩ := exists_of_createType k
  obtain ⟨rest, hrest⟩ := exists_of_createsType h
  obtain ⟨more, hmore⟩ := toList_typeStatement shown f.values
  have htext := List.append_cancel_left (hmore.symm.trans hrest)
  obtain ⟨hs, hn⟩ := hl.quoteQualified_unique hshown hw htext
  rw [writtenSchema_typeName, writtenSchema_typeName] at hs
  exact Prod.ext hs hn

theorem createsTable_createType (k : lib.createType .postgresql e = .ok text) :
    createsTable text = false := by
  obtain ⟨shown, _, rfl⟩ := exists_of_createType k
  obtain ⟨more, hmore⟩ := toList_typeStatement shown e.values
  refine Bool.eq_false_iff.2 fun h => ?_
  obtain ⟨rest, hrest⟩ := List.isPrefixOf_iff_prefix.1 h
  rw [hmore] at hrest
  simp at hrest

theorem createsType_createTable (hl : lib.OpensStatements .postgresql) {keys : List ForeignKey}
    {entry : CatalogTable} (k : lib.createTable .postgresql keys entry = .ok text) :
    createsType written text = false := by
  unfold Library.createTable at k
  obtain ⟨whole, hwhole, k⟩ := exists_of_bind k
  obtain rfl := Except.ok.inj k
  obtain ⟨more, hmore⟩ := hl.table _ _ _ hwhole
  refine Bool.eq_false_iff.2 fun h => ?_
  obtain ⟨rest, hrest⟩ := exists_of_createsType h
  rw [← hmore] at hrest
  simp at hrest

theorem createsType_createIndex (hl : lib.OpensStatements .postgresql) {table : TableName}
    {index : CatalogIndex} (k : lib.createIndex .postgresql table index = .ok text) :
    createsType written text = false := by
  unfold Library.createIndex at k
  obtain ⟨whole, hwhole, k⟩ := exists_of_bind k
  obtain rfl := Except.ok.inj k
  refine Bool.eq_false_iff.2 fun h => ?_
  obtain ⟨rest, hrest⟩ := exists_of_createsType h
  rcases hl.index _ _ _ hwhole with ⟨more, hmore⟩ | ⟨more, hmore⟩
  all_goals
    rw [← hmore] at hrest
    simp at hrest

end Statements

section Compiler

variable {d : Dialect} {text : String}

theorem strip_indexText {table : TableName} {index : CatalogIndex}
    (k : d.indexText table index = .ok text) :
    ∃ rest, (strip text).toList =
      "CREATE ".toList ++ ((if index.unique then "UNIQUE " else "").toList ++
        ("INDEX ".toList ++ rest)) := by
  have hfirm (middle : List Char) :
      Text.trim ("CREATE ".toList ++ (middle ++ ")".toList)) =
        "CREATE ".toList ++ (middle ++ ")".toList) :=
    (Text.firm_append ⟨'C', by decide, by decide⟩ middle ⟨')', by decide, by decide⟩).trim
  have hopening (name tableName columns : String) : ∃ rest, (strip ("CREATE " ++
      (if index.unique then "UNIQUE " else "") ++ "INDEX " ++ name ++ " ON " ++ tableName ++ " (" ++
        columns ++ ")")).toList = "CREATE ".toList ++
      ((if index.unique then "UNIQUE " else "").toList ++ ("INDEX ".toList ++ rest)) := by
    unfold strip
    simp only [String.toList_append, String.toList_ofList]
    refine ⟨name.toList ++ (" ON ".toList ++ (tableName.toList ++ (" (".toList ++
      (columns.toList ++ ")".toList)))), ?_⟩
    have h := hfirm ((if index.unique then "UNIQUE " else "").toList ++ ("INDEX ".toList ++
      (name.toList ++ (" ON ".toList ++ (tableName.toList ++ (" (".toList ++ columns.toList))))))
    simpa only [List.append_assoc] using h
  unfold Dialect.indexText at k
  obtain ⟨_, _, k⟩ := exists_of_bind k
  dsimp only at k
  split at k <;>
    obtain ⟨_, _, k⟩ := exists_of_bind k <;>
    obtain ⟨_, _, k⟩ := exists_of_bind k <;>
    obtain ⟨_, _, k⟩ := exists_of_bind k <;>
    obtain rfl := Except.ok.inj k <;>
    exact hopening _ _ _

theorem compiler_opensStatements : compiler.OpensStatements .postgresql where
  table keys entry text k := by
    obtain ⟨l, htext, _⟩ := exists_layout_of_tableText rfl k
    rw [htext, Layout.text]
    simp only [String.toList_append, List.append_assoc]
    exact List.prefix_append _ _
  index table index text k := by
    obtain ⟨rest, hrest⟩ := strip_indexText k
    rw [hrest]
    split
    · exact .inr ⟨rest, rfl⟩
    · exact .inl ⟨rest, rfl⟩

end Compiler

section Scripts

variable {lib : Library} {doubles : Char → Bool} {schema : Schema} {catalog : Catalog}
  {entry : CatalogTable} {column : CatalogColumn} {name : Option String × String}
  {values : List String} {text : String}

theorem isCreatedOnce_of_statements (hl : lib.TellsNames .postgresql doubles)
    (ho : lib.OpensStatements .postgresql) {texts : List String}
    (k : lib.statements .postgresql schema = .ok texts) {e : Enumeration}
    (he : e ∈ typedEnumerations schema)
    (hu : ((typedEnumerations schema).map typeName).count (typeName e) ≤ 1) :
    ∃ written, lib.quoteQualified .postgresql (typeName e).1 (typeName e).2 = .ok written ∧
      IsCreatedOnce texts written e.values := by
  unfold Library.statements at k
  obtain ⟨_, _, k⟩ := exists_of_bind k
  obtain ⟨types, htypes, k⟩ := exists_of_bind k
  obtain ⟨tables, htables, k⟩ := exists_of_bind k
  obtain ⟨indexes, hindexes, k⟩ := exists_of_bind k
  obtain rfl := Except.ok.inj k
  obtain ⟨front, back, hsplit⟩ := List.append_of_mem he
  have htypes : (typedEnumerations schema).mapM (lib.createType .postgresql) = .ok types := htypes
  rw [hsplit] at htypes hu
  obtain ⟨before, rest, hbefore, hrest, rfl⟩ := exists_append_of_mapM htypes
  obtain ⟨own, after, hown, hafter, rfl⟩ := exists_cons_of_mapM hrest
  obtain ⟨written, hw, rfl⟩ := exists_of_createType hown
  -- The name is counted once for the enumeration itself, so that no other one has it.
  have hother : ∀ f ∈ front ++ back, typeName f ≠ typeName e := by
    intro f hf hfe
    have hpos : 0 < ((front ++ back).map typeName).count (typeName e) :=
      List.count_pos_iff.2 (hfe ▸ List.mem_map_of_mem hf)
    simp only [List.map_append, List.map_cons, List.count_append, List.count_cons_self] at hu hpos
    omega
  have hforeign {f : Enumeration} {s : String} (hf : f ∈ front ++ back)
      (hs : lib.createType .postgresql f = .ok s) : createsType written s = false :=
    Bool.eq_false_iff.2 fun h => hother f hf (typeName_eq_of_createsType hl hw hs h)
  refine ⟨written, hw, before, after ++ (tables ++ indexes), by simp, fun s hs => ?_,
    fun s hs => ?_⟩
  · simp only [List.mem_append] at hs
    rcases hs with hs | hs | hs | hs
    · obtain ⟨f, hf, hk⟩ := exists_left_of_mem (forall₂_of_mapM hbefore) hs
      exact hforeign (List.mem_append_left _ hf) hk
    · obtain ⟨f, hf, hk⟩ := exists_left_of_mem (forall₂_of_mapM hafter) hs
      exact hforeign (List.mem_append_right _ hf) hk
    · obtain ⟨_, _, hk⟩ := exists_left_of_mem (forall₂_of_mapM htables) hs
      exact createsType_createTable ho hk
    · obtain ⟨_, _, hk⟩ := exists_left_of_mem (forall₂_of_mapM hindexes) hs
      exact createsType_createIndex ho hk
  · obtain ⟨f, _, hk⟩ := exists_left_of_mem (forall₂_of_mapM hbefore) hs
    exact createsTable_createType hk

/-- The type of an enumeration that a column has is created once, as the column has it, if no other
enumeration with values gives a type of its name. -/
theorem isCreatedOnce_of_render (hd : lib.DefinesTables) (hl : lib.TellsNames .postgresql doubles)
    (ho : lib.OpensStatements .postgresql) (k : lib.render .postgresql schema = .ok text)
    (hc : Catalog.ofSchema lib schema = .ok catalog) (he : entry ∈ catalog.tables)
    (hm : column ∈ entry.columns) (ht : column.type = .enumeration name.1 name.2 values)
    (hu : ((typedEnumerations schema).map typeName).count name ≤ 1) :
    ∃ texts written, lib.statements .postgresql schema = .ok texts ∧
      text = ";\n\n".intercalate texts ++ ";\n" ∧
      lib.quoteQualified .postgresql name.1 name.2 = .ok written ∧
      IsCreatedOnce texts written values := by
  obtain ⟨type, htype⟩ := isTyped_of_ofSchema hd hc entry he column hm
  rw [ht] at htype
  obtain ⟨e, hin, hvalues, rfl, rfl⟩ := exists_enumeration_of_read htype
  unfold Library.render at k
  obtain ⟨texts, htexts, k⟩ := exists_of_bind k
  obtain ⟨written, hw, honce⟩ :=
    isCreatedOnce_of_statements hl ho htexts (List.mem_filter.2 ⟨hin, hvalues⟩) hu
  refine ⟨texts, written, htexts, ?_, hw, honce⟩
  have hne : texts.isEmpty = false := by
    obtain ⟨before, after, rfl, _⟩ := honce
    simp
  rw [hne] at k
  exact (Except.ok.inj k).symm

def stateSchema : Schema where
  tables := [{ id := "order", name := "order"
               columns := [{ name := "state", type := "shop.State" }] }]
  enumerations := [{ name := "State", values := ["on"] },
    { name := "shop.State", values := ["open", "owner's"] }, { name := ".State" }]

def stateColumn : CatalogColumn where
  name := "state"
  type := .enumeration (some "shop") "State" ["open", "owner's"]
  primaryKey := false
  nullable := true
  unique := false
  autoIncrement := false
  default := none
  comment := none

def stateEntry : CatalogTable where
  id := "order"
  name := ⟨none, "order"⟩
  comment := none
  columns := [stateColumn]
  indexes := []

def stateScript : String :=
  "CREATE TYPE \"State\" AS ENUM ('on');\n\n" ++
  "CREATE TYPE shop.\"State\" AS ENUM ('open', 'owner''s');\n\n" ++
  "CREATE TABLE \"order\" (\n\tstate shop.\"State\"\n);\n"

theorem isCreatedOnce_stateScript :
    compiler.DefinesTables ∧
      compiler.TellsNames .postgresql Dialect.postgresql.doubles ∧
      compiler.OpensStatements .postgresql ∧
      compiler.render .postgresql stateSchema = .ok stateScript ∧
      Catalog.ofSchema compiler stateSchema = .ok { tables := [stateEntry] } ∧
      ((typedEnumerations stateSchema).map typeName).count (some "shop", "State") ≤ 1 ∧
      ∃ texts written, compiler.statements .postgresql stateSchema = .ok texts ∧
        stateScript = ";\n\n".intercalate texts ++ ";\n" ∧
        compiler.quoteQualified .postgresql (some "shop") "State" = .ok written ∧
        IsCreatedOnce texts written ["open", "owner's"] := by
  have hrender : compiler.render .postgresql stateSchema = .ok stateScript := by decide +kernel
  have hcatalog : Catalog.ofSchema compiler stateSchema = .ok { tables := [stateEntry] } := by
    decide +kernel
  have hcount :
      ((typedEnumerations stateSchema).map typeName).count (some "shop", "State") ≤ 1 := by
    decide +kernel
  exact ⟨compiler_definesTables, compiler_tellsNames _, compiler_opensStatements, hrender, hcatalog,
    hcount, isCreatedOnce_of_render compiler_definesTables (compiler_tellsNames _)
      compiler_opensStatements hrender hcatalog (List.mem_singleton_self stateEntry)
      (List.mem_singleton_self stateColumn) rfl hcount⟩

def repeatedSchema : Schema where
  tables := [{ id := "t", name := "t", columns := [{ name := "c", type := "a" }] }]
  enumerations := [{ name := "a", values := ["x"] }, { name := "a", values := ["y"] }]

/-- Enumerations of one name all create the type, the first one with other values than the column
has. -/
theorem createdTwice_repeatedSchema :
    ∃ catalog texts, Catalog.ofSchema compiler repeatedSchema = .ok catalog ∧
      compiler.statements .postgresql repeatedSchema = .ok texts ∧
      (∃ entry ∈ catalog.tables, ∃ column ∈ entry.columns,
        column.type = .enumeration none "a" ["y"]) ∧
      compiler.quoteQualified .postgresql none "a" = .ok "a" ∧
      texts.filter (createsType "a") = [typeStatement "a" ["x"], typeStatement "a" ["y"]] ∧
      ¬ IsCreatedOnce texts "a" ["y"] := by
  let column : CatalogColumn :=
    { stateColumn with name := "c", type := .enumeration none "a" ["y"] }
  let entry : CatalogTable :=
    { stateEntry with id := "t", name := ⟨none, "t"⟩, columns := [column] }
  have hcatalog : Catalog.ofSchema compiler repeatedSchema = .ok { tables := [entry] } := by
    decide +kernel
  let texts := [typeStatement "a" ["x"], typeStatement "a" ["y"], "CREATE TABLE t (\n\tc a\n)"]
  have htexts : compiler.statements .postgresql repeatedSchema = .ok texts := by decide +kernel
  have hfilter : texts.filter (createsType "a") =
      [typeStatement "a" ["x"], typeStatement "a" ["y"]] := by decide +kernel
  refine ⟨_, texts, hcatalog, htexts, ⟨entry, List.mem_singleton_self _, column,
    List.mem_singleton_self _, rfl⟩, by decide +kernel, hfilter, ?_⟩
  rintro ⟨before, after, hsplit, hother, _⟩
  have hlen := congrArg List.length hfilter
  rw [hsplit, List.filter_append, List.filter_cons,
    List.filter_eq_nil_iff.2 fun s hs => by simp [hother s (List.mem_append_left _ hs)],
    List.filter_eq_nil_iff.2 fun s hs => by simp [hother s (List.mem_append_right _ hs)]] at hlen
  split at hlen <;> simp at hlen

end Scripts

end SchemaText.Export
