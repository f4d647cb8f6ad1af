import Mathlib.Data.List.Induction
import Mathlib.Data.List.Nodup
import SchemaText.Proofs.Export.PlainCatalog
/-! The catalog of a schema, whatever the schema holds: of tables and columns that clash the first
one is built, and nothing in the catalog refers to what is not built. -/

namespace SchemaText.Export

section Firsts

variable {α : Type} {r : α → α → Bool} {f : α → String}

theorem eraseDupsBy_concat (xs : List α) (x : α) :
    (xs ++ [x]).eraseDupsBy r =
      xs.eraseDupsBy r ++ if (xs.eraseDupsBy r).any (r x) then [] else [x] := by
  match xs with
  | [] => simp [List.eraseDupsBy_cons]
  | y :: ys =>
    have hrest := eraseDupsBy_concat (ys.filter fun b => decide (r b y = false)) x
    rw [List.cons_append, List.eraseDupsBy_cons, List.eraseDupsBy_cons, List.filter_append,
      List.any_cons, List.cons_append]
    cases hx : r x y with
    | true => simp [hx]
    | false =>
      rw [List.filter_cons_of_pos (by simpa using hx), List.filter_nil, Bool.false_or]
      exact congrArg (y :: ·) hrest
termination_by xs.length
decreasing_by exact Nat.lt_succ_of_le (List.length_filter_le _ ys)

theorem pairwise_eraseDupsBy (xs : List α) :
    (xs.eraseDupsBy r).Pairwise fun a b => r b a = false := by
  induction xs using List.reverseRecOn with
  | nil => exact .nil
  | append_singleton xs x ih =>
    rw [eraseDupsBy_concat]
    split
    · rwa [List.append_nil]
    · next hx =>
      refine List.pairwise_append.2 ⟨ih, List.pairwise_singleton _ _, fun a ha b hb => ?_⟩
      obtain rfl := List.mem_singleton.1 hb
      exact Bool.eq_false_iff.2 fun hr => hx (List.any_eq_true.2 ⟨a, ha, hr⟩)

theorem eraseDupsBy_sublist (xs : List α) : (xs.eraseDupsBy r).Sublist xs := by
  induction xs using List.reverseRecOn with
  | nil => exact .slnil
  | append_singleton xs x ih =>
    rw [eraseDupsBy_concat]
    refine List.Sublist.append ih ?_
    split
    · exact List.nil_sublist _
    · exact List.Sublist.refl _

theorem any_eraseDupsBy (xs : List α) (name : String) :
    ((xs.eraseDupsBy fun a b => f a == f b).any fun a => f a == name) =
      xs.any fun a => f a == name := by
  induction xs using List.reverseRecOn with
  | nil => rfl
  | append_singleton xs x ih =>
    rw [eraseDupsBy_concat, List.any_append, List.any_append, ih]
    split
    · next hx =>
      obtain ⟨a, ha, he⟩ := List.any_eq_true.1 hx
      cases hn : f x == name with
      | false => simp [hn]
      | true =>
        have hold : xs.any (fun a => f a == name) := by
          rw [beq_iff_eq] at he hn
          refine List.any_eq_true.2 ⟨a, (eraseDupsBy_sublist xs).subset ha, ?_⟩
          rw [beq_iff_eq, ← he, hn]
        rw [hold, Bool.true_or, Bool.true_or]
    · rfl

end Firsts

section Meaning

def clashes (table other : Table) : Bool :=
  table.id == other.id || table.qualifiedName == other.qualifiedName

def builtTables (schema : Schema) : List Table :=
  schema.tables.eraseDupsBy clashes

def builtColumns (table : Table) : List Column :=
  table.columns.eraseDupsBy fun column other => column.name == other.name

def builtIndexes (table : Table) : List Index :=
  table.indexes.filter fun index => !index.columns.isEmpty &&
    index.columns.all fun name => (builtColumns table).any (·.name == name)

structure IsBuiltColumn (enumerations : List Enumeration) (table : Table) (column : Column)
    (entry : CatalogColumn) : Prop where
  name : entry.name = column.name
  type : TypeName.read enumerations column.type = .ok entry.type
  primaryKey : entry.primaryKey = column.primaryKey
  nullable : entry.nullable = !(column.notNull || column.primaryKey)
  unique : entry.unique = column.unique
  autoIncrement : ∃ counting, autoIncrementColumn? enumerations table.columns = .ok counting ∧
    entry.autoIncrement = (counting == some column.name)
  default : entry.default = column.default.map DefaultValue.ofText
  comment : entry.comment = column.note

/-- The entry holds the built columns and indexes of the table, under the table's names. -/
structure IsBuiltTable (enumerations : List Enumeration) (table : Table) (entry : CatalogTable) :
    Prop where
  id : entry.id = table.id
  name : entry.name = ⟨table.schema, table.name⟩
  comment : entry.comment = table.note
  columns : List.Forall₂ (IsBuiltColumn enumerations table) (builtColumns table) entry.columns
  indexes : entry.indexes = (builtIndexes table).map (CatalogIndex.ofIndex table.name)

def isBuiltColumn (schema : Schema) (table column : String) : Bool :=
  (builtTables schema).any fun t => t.id == table && (builtColumns t).any (·.name == column)

def KeyEnds.areBuilt (schema : Schema) (ends : KeyEnds) : Bool :=
  isBuiltColumn schema ends.table ends.column &&
    isBuiltColumn schema ends.targetTable ends.targetColumn

def HasColumn (tables : List CatalogTable) (id column : String) (name : TableName) : Prop :=
  ∃ entry ∈ tables, entry.id = id ∧ entry.name = name ∧
    column ∈ entry.columns.map CatalogColumn.name

/-- The foreign key joins the columns of the tables that the ends are. -/
structure IsKeyOf (tables : List CatalogTable) (ends : KeyEnds) (key : ForeignKey) : Prop where
  column : key.column = ends.column
  targetColumn : key.targetColumn = ends.targetColumn
  owner : HasColumn tables ends.table ends.column key.owner
  target : HasColumn tables ends.targetTable ends.targetColumn key.target

/-- The catalog holds what the schema builds, each table and column once, and the foreign keys
between them in the order of the relationships, all in all and for each table. -/
structure IsBuiltCatalog (schema : Schema) (catalog : Catalog) : Prop where
  tables : List.Forall₂ (IsBuiltTable schema.enumerations) (builtTables schema) catalog.tables
  ids : (catalog.tables.map CatalogTable.id).Nodup
  names : (catalog.tables.map fun entry => entry.name.key).Nodup
  columns : ∀ entry ∈ catalog.tables, (entry.columns.map CatalogColumn.name).Nodup
  indexes : ∀ entry ∈ catalog.tables, ∀ index ∈ entry.indexes,
    index.columns ≠ [] ∧ index.columns ⊆ entry.columns.map CatalogColumn.name
  keys : List.Forall₂ (IsKeyOf catalog.tables)
    ((schema.relationships.filterMap KeyEnds.ofRelationship?).filter (KeyEnds.areBuilt schema))
    catalog.foreignKeys
  keysOf : ∀ entry ∈ catalog.tables, List.Forall₂ (IsKeyOf catalog.tables)
    ((schema.relationships.filterMap KeyEnds.ofRelationship?).filter fun ends =>
      ends.table == entry.id && ends.areBuilt schema)
    (catalog.keysOf entry)

end Meaning

section Registration

variable {lib : Library} {enumerations : List Enumeration} {table : Table} {entry : CatalogTable}
  {built : List Table} {catalog next : Catalog}

theorem firstOfEachName_eq (seen : List String) (columns : List Column) :
    firstOfEachName seen columns =
      (columns.filter fun column => decide (column.name ∉ seen)).eraseDupsBy
        fun column other => column.name == other.name := by
  induction columns generalizing seen with
  | nil => rfl
  | cons column columns ih =>
    rw [firstOfEachName]
    split
    · next hm => rw [ih, List.filter_cons_of_neg (by simpa using hm)]
    · next hm =>
      rw [ih, List.filter_cons_of_pos (by simpa using hm), List.eraseDupsBy_cons,
        List.filter_filter]
      congr 3
      funext other
      simp [not_or]

theorem IsBuiltTable.key_eq (h : IsBuiltTable enumerations table entry)
    (hs : table.schema ≠ some "") : entry.name.key = table.qualifiedName := by
  rw [h.name, key_eq_qualifiedName hs]

theorem isBuiltColumn_of_ofColumn {column : Column} {counting : Option String}
    {entry : CatalogColumn} (h : autoIncrementColumn? enumerations table.columns = .ok counting)
    (k : CatalogColumn.ofColumn enumerations counting column = .ok entry) :
    IsBuiltColumn enumerations table column entry := by
  unfold CatalogColumn.ofColumn at k
  obtain ⟨type, htype, k⟩ := exists_of_bind k
  obtain rfl := Except.ok.inj k
  exact ⟨rfl, htype, rfl, rfl, rfl, ⟨counting, h, rfl⟩, rfl, rfl⟩

theorem indexesOf_eq (table : Table) :
    CatalogTable.indexesOf table = (builtIndexes table).map (CatalogIndex.ofIndex table.name) := by
  unfold CatalogTable.indexesOf builtIndexes builtColumns
  simp only [any_eraseDupsBy]

theorem taken_eq (table : Table)
    (h : List.Forall₂ (IsBuiltTable enumerations) built catalog.tables)
    (hs : ∀ t ∈ built, t.schema ≠ some "") :
    (catalog.hasId table.id || (catalog.registered? table.qualifiedName).isSome) =
      built.any (clashes table) := by
  unfold Catalog.hasId Catalog.registered?
  rw [List.isSome_find?]
  generalize catalog.tables = entries at h
  induction h with
  | nil => rfl
  | @cons t entry built entries he _ ih =>
    have hrest := ih fun t ht => hs t (List.mem_cons_of_mem _ ht)
    rw [List.any_cons, List.any_cons, List.any_cons, ← hrest, he.id,
      he.key_eq (hs t List.mem_cons_self), clashes, Bool.beq_comm (a := t.id),
      Bool.beq_comm (a := t.qualifiedName)]
    ac_rfl

theorem forall₂_built_addTable (hl : lib.DefinesTables)
    (h : List.Forall₂ (IsBuiltTable enumerations) built catalog.tables)
    (hs : ∀ t ∈ built, t.schema ≠ some "") (ht : table.schema ≠ some "")
    (k : catalog.addTable lib enumerations table = .ok next) :
    List.Forall₂ (IsBuiltTable enumerations)
      (built ++ if built.any (clashes table) then [] else [table]) next.tables := by
  have htaken := taken_eq table h hs
  rcases addTable_cases k with ⟨hc, rfl⟩ | ⟨hc, counting, columns, hcounting, hcolumns, hregister⟩
  · rwa [if_pos (htaken ▸ hc), List.append_nil]
  · rw [if_neg (Bool.eq_false_iff.1 (htaken ▸ hc))]
    have hfirst : firstOfEachName [] table.columns = builtColumns table := by
      rw [firstOfEachName_eq]
      simp [builtColumns]
    rw [hfirst] at hcolumns
    have hentries := (forall₂_of_mapM hcolumns).imp fun _ _ he =>
      isBuiltColumn_of_ofColumn hcounting he
    have hknown : catalog.registered? (TableName.key ⟨table.schema, table.name⟩) = none := by
      rw [key_eq_qualifiedName ht]
      exact Option.isNone_iff_eq_none.1
        (Option.isSome_eq_false_iff.1 (Bool.or_eq_false_iff.1 hc).2)
    rw [register_of_none hl hregister hknown]
    exact List.rel_append h (.cons ⟨rfl, rfl, rfl, hentries, indexesOf_eq table⟩ .nil)

theorem forall₂_built_addTables (hl : lib.DefinesTables) (before : List Table) {more : List Table}
    (h : List.Forall₂ (IsBuiltTable enumerations) (before.eraseDupsBy clashes) catalog.tables)
    (hs : ∀ t ∈ before ++ more, t.schema ≠ some "")
    (k : more.foldlM (Catalog.addTable lib enumerations) catalog = .ok next) :
    List.Forall₂ (IsBuiltTable enumerations) ((before ++ more).eraseDupsBy clashes)
      next.tables := by
  induction more generalizing before catalog with
  | nil =>
    obtain rfl := Except.ok.inj k
    rwa [List.append_nil]
  | cons table more ih =>
    rw [List.foldlM_cons] at k
    obtain ⟨middle, hmiddle, k⟩ := exists_of_bind k
    have hbefore : ∀ t ∈ before.eraseDupsBy clashes, t.schema ≠ some "" := fun t ht =>
      hs t (List.mem_append_left _ ((eraseDupsBy_sublist before).subset ht))
    have htable := hs table (List.mem_append_right _ List.mem_cons_self)
    have hadded := forall₂_built_addTable hl h hbefore htable hmiddle
    rw [← eraseDupsBy_concat] at hadded
    have happend : before ++ table :: more = before ++ [table] ++ more := by simp
    rw [happend] at hs ⊢
    exact ih (before ++ [table]) hadded hs k

end Registration

section Keys

variable {schema : Schema} {catalog : Catalog}

theorem any_and_eq_any_find? {α : Type} {f : α → String} {xs : List α} (h : (xs.map f).Nodup)
    (name : String) (p : α → Bool) :
    (xs.any fun x => f x == name && p x) = (xs.find? fun x => f x == name).any p := by
  induction xs with
  | nil => rfl
  | cons x xs ih =>
    obtain ⟨hx, hxs⟩ := List.nodup_cons.1 h
    rw [List.any_cons, List.find?_cons, ih hxs]
    cases hn : f x == name with
    | false => rfl
    | true =>
      have hnone : xs.find? (fun y => f y == name) = none := by
        refine List.find?_eq_none.2 fun y hy he => hx ?_
        rw [beq_iff_eq.1 hn, ← beq_iff_eq.1 he]
        exact List.mem_map_of_mem hy
      rw [hnone, Bool.true_and, Option.any_none, Bool.or_false, Option.any_some]

theorem nodup_builtTables_ids (schema : Schema) : ((builtTables schema).map Table.id).Nodup := by
  refine List.pairwise_map.2 ((pairwise_eraseDupsBy schema.tables).imp fun {a b} hab he => ?_)
  simp [clashes, he] at hab

theorem IsBuiltTable.names_eq {table : Table} {entry : CatalogTable}
    (h : IsBuiltTable schema.enumerations table entry) :
    (builtColumns table).map Column.name = entry.columns.map CatalogColumn.name :=
  map_eq_of_forall₂ h.columns fun _ _ hc => hc.name.symm

theorem findEnd?_built
    (h : List.Forall₂ (IsBuiltTable schema.enumerations) (builtTables schema) catalog.tables)
    (table column : String) :
    isBuiltColumn schema table column = false ∧ catalog.findEnd? table column = none ∨
      ∃ name, isBuiltColumn schema table column = true ∧
        catalog.findEnd? table column = some (name, column) ∧
        HasColumn catalog.tables table column name := by
  unfold isBuiltColumn
  rw [any_and_eq_any_find? (nodup_builtTables_ids schema)]
  rcases findEnd?_related h (fun _ _ he => he.id) (fun _ _ he => he.columns)
    (fun _ _ _ hc => hc.name) table column with hnone |
    ⟨hknown, _, entry, _, ce, _, _, hentry, hce, hid, hname, hfound⟩
  · exact .inl hnone
  · exact .inr ⟨entry.name, hknown, hfound, entry, hentry, hid, rfl,
      List.mem_map.2 ⟨ce, hce, hname⟩⟩

theorem foreignKey?_built
    (h : List.Forall₂ (IsBuiltTable schema.enumerations) (builtTables schema) catalog.tables)
    (ends : KeyEnds) :
    ends.areBuilt schema = false ∧ catalog.foreignKey? ends = none ∨
      ∃ key, ends.areBuilt schema = true ∧ catalog.foreignKey? ends = some key ∧
        IsKeyOf catalog.tables ends key := by
  rw [foreignKey?_eq]
  unfold KeyEnds.areBuilt
  rcases findEnd?_built h ends.table ends.column with ⟨howner, hnone⟩ |
    ⟨owner, howner, hfound, hcolumn⟩
  · exact .inl ⟨by rw [howner]; rfl, by rw [hnone]; rfl⟩
  rcases findEnd?_built h ends.targetTable ends.targetColumn with ⟨htarget, hnone⟩ |
    ⟨target, htarget, hfound', hcolumn'⟩
  · exact .inl ⟨by rw [howner, htarget]; rfl, by rw [hfound, hnone]; rfl⟩
  · exact .inr ⟨⟨owner, ends.column, target, ends.targetColumn⟩, by rw [howner, htarget]; rfl,
      by rw [hfound, hfound']; rfl, rfl, rfl, hcolumn, hcolumn'⟩

theorem forall₂_keys
    (h : List.Forall₂ (IsBuiltTable schema.enumerations) (builtTables schema) catalog.tables)
    (ends : List KeyEnds) :
    List.Forall₂ (IsKeyOf catalog.tables) (ends.filter (KeyEnds.areBuilt schema))
      (ends.filterMap catalog.foreignKey?) := by
  induction ends with
  | nil => exact .nil
  | cons e ends ih =>
    rcases foreignKey?_built h e with ⟨hb, hk⟩ | ⟨key, hb, hk, hkey⟩
    · rwa [List.filter_cons_of_neg (by simp [hb]), List.filterMap_cons_none hk]
    · rw [List.filter_cons_of_pos hb, List.filterMap_cons_some hk]
      exact .cons hkey ih

theorem forall₂_keysOf (catalog : Catalog) {ends : List KeyEnds}
    (hids : (catalog.tables.map CatalogTable.id).Nodup)
    (hnames : (catalog.tables.map fun entry => entry.name.key).Nodup)
    (h : List.Forall₂ (IsKeyOf catalog.tables) ends catalog.foreignKeys) {entry : CatalogTable}
    (he : entry ∈ catalog.tables) :
    List.Forall₂ (IsKeyOf catalog.tables) (ends.filter fun e => e.table == entry.id)
      (catalog.keysOf entry) := by
  refine List.rel_filter (fun e key hk => ?_) h
  obtain ⟨owner, ho, hid, hname, _⟩ := hk.owner
  show (e.table == entry.id) = true ↔ (key.owner.key == entry.name.key) = true
  rw [beq_iff_eq, beq_iff_eq, ← hid, ← hname]
  constructor
  · intro heq
    rw [List.inj_on_of_nodup_map hids ho he heq]
  · intro heq
    rw [List.inj_on_of_nodup_map hnames ho he heq]

end Keys

section Schemas

variable {lib : Library} {d : Dialect} {schema : Schema} {catalog : Catalog} {text : String}

theorem nodup_builtTables_names (schema : Schema) :
    ((builtTables schema).map Table.qualifiedName).Nodup := by
  refine List.pairwise_map.2 ((pairwise_eraseDupsBy schema.tables).imp fun {a b} hab he => ?_)
  simp [clashes, he] at hab

theorem nodup_builtColumns (table : Table) : ((builtColumns table).map Column.name).Nodup := by
  refine List.pairwise_map.2 ((pairwise_eraseDupsBy table.columns).imp fun {a b} hab he => ?_)
  simp [he] at hab

theorem IsBuiltTable.columns_of_index {table : Table} {entry : CatalogTable}
    (h : IsBuiltTable schema.enumerations table entry) {index : CatalogIndex}
    (hi : index ∈ entry.indexes) :
    index.columns ≠ [] ∧ index.columns ⊆ entry.columns.map CatalogColumn.name := by
  rw [h.indexes] at hi
  obtain ⟨source, hs, rfl⟩ := List.mem_map.1 hi
  obtain ⟨hne, hall⟩ := Bool.and_eq_true_iff.1 (List.mem_filter.1 hs).2
  refine ⟨by simpa [CatalogIndex.ofIndex] using hne, fun name hn => ?_⟩
  obtain ⟨column, hc, hname⟩ := List.any_eq_true.1 (List.all_eq_true.1 hall name hn)
  rw [← h.names_eq, ← beq_iff_eq.1 hname]
  exact List.mem_map_of_mem hc

theorem isBuiltCatalog_of_ofSchema (hl : lib.DefinesTables)
    (h : ∀ t ∈ schema.tables, t.schema ≠ some "")
    (k : Catalog.ofSchema lib schema = .ok catalog) : IsBuiltCatalog schema catalog := by
  unfold Catalog.ofSchema at k
  obtain ⟨filled, hfilled, k⟩ := exists_of_bind k
  obtain rfl := Except.ok.inj k
  have htables : List.Forall₂ (IsBuiltTable schema.enumerations) (builtTables schema)
      filled.tables := forall₂_built_addTables hl [] .nil h hfilled
  have hids : (filled.tables.map CatalogTable.id).Nodup := by
    rw [← map_eq_of_forall₂ htables fun t entry he => he.id.symm]
    exact nodup_builtTables_ids schema
  have hbuilt : List.Forall₂ (fun t entry => t.qualifiedName = entry.name.key)
      (builtTables schema) filled.tables :=
    ((List.forall₂_and_left _ _).2 ⟨fun t ht => h t ((eraseDupsBy_sublist _).subset ht),
      htables⟩).imp fun _ _ ⟨hs, he⟩ => (he.key_eq hs).symm
  have hnames : (filled.tables.map fun entry => entry.name.key).Nodup := by
    rw [← map_eq_of_forall₂ hbuilt fun _ _ he => he]
    exact nodup_builtTables_names schema
  have hkeys := forall₂_keys htables (schema.relationships.filterMap KeyEnds.ofRelationship?)
  refine ⟨htables, hids, hnames, fun entry he => ?_, fun entry he index hi => ?_, hkeys,
    fun entry he => ?_⟩
  · obtain ⟨table, _, ht⟩ := exists_left_of_mem htables he
    rw [← ht.names_eq]
    exact nodup_builtColumns table
  · obtain ⟨table, _, ht⟩ := exists_left_of_mem htables he
    exact ht.columns_of_index hi
  · have hown := forall₂_keysOf
      { filled with foreignKeys := filled.foreignKeysOf schema.relationships } hids hnames hkeys he
    rwa [List.filter_filter] at hown

end Schemas

end SchemaText.Export
