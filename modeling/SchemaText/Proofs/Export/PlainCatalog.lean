import SchemaText.Proofs.Export.PlainSchema
import SchemaText.Proofs.Export.Registration
/-! The catalog of a plain schema: an entry for every table and a foreign key for every relationship
between columns of the schema. -/

namespace SchemaText.Export

structure IsColumnEntry (column : Column) (entry : CatalogColumn) : Prop where
  plain : IsPlainColumn column
  name : entry.name = column.name
  type : TypeName.read [] column.type = .ok entry.type
  primaryKey : entry.primaryKey = column.primaryKey
  nullable : entry.nullable = !(column.notNull || column.primaryKey)
  default : entry.default = none
  comment : entry.comment = none

structure IsTableEntry (table : Table) (entry : CatalogTable) : Prop where
  plain : IsPlainTable table
  id : entry.id = table.id
  name : entry.name = ⟨table.schema, table.name⟩
  comment : entry.comment = none
  columns : List.Forall₂ IsColumnEntry table.columns entry.columns
  indexes : entry.indexes = []

section Entries

variable {table : Table} {entry : CatalogTable}

theorem key_eq_qualifiedName (h : table.schema ≠ some "") :
    TableName.key ⟨table.schema, table.name⟩ = table.qualifiedName := by
  unfold TableName.key Table.qualifiedName
  cases hs : table.schema with
  | none => rfl
  | some schema =>
    have hne : ¬ schema.isEmpty := fun he => h (hs.trans (congrArg some (String.isEmpty_iff.1 he)))
    simp only [if_neg hne]

theorem IsPlainTable.key_eq (h : IsPlainTable table) :
    TableName.key ⟨table.schema, table.name⟩ = table.id := by
  rw [h.id]
  exact key_eq_qualifiedName fun hs => (h.schema "" hs).1 rfl

theorem IsTableEntry.key_eq (h : IsTableEntry table entry) : entry.name.key = table.id := by
  rw [h.name, h.plain.key_eq]

theorem IsTableEntry.names_eq (h : IsTableEntry table entry) :
    table.columns.map Column.name = entry.columns.map CatalogColumn.name :=
  map_eq_of_forall₂ h.columns fun _ _ hc => hc.name.symm

theorem isColumnEntry_of_ofColumn {column : Column} (h : IsPlainColumn column)
    {counting : Option String} {entry : CatalogColumn}
    (k : CatalogColumn.ofColumn [] counting column = .ok entry) : IsColumnEntry column entry := by
  unfold CatalogColumn.ofColumn at k
  obtain ⟨type, htype, k⟩ := exists_of_bind k
  obtain rfl := Except.ok.inj k
  exact ⟨h, rfl, htype, rfl, rfl, by rw [h.default]; rfl, h.note⟩

theorem firstOfEachName_of_nodup {seen : List String} {columns : List Column}
    (h : (columns.map Column.name).Nodup) (k : ∀ column ∈ columns, column.name ∉ seen) :
    firstOfEachName seen columns = columns := by
  induction columns generalizing seen with
  | nil => rfl
  | cons column columns ih =>
    obtain ⟨hn, hnodup⟩ := List.nodup_cons.1 h
    have hrest : ∀ other ∈ columns, other.name ∉ column.name :: seen := by
      intro other ho hm
      rcases List.mem_cons.1 hm with he | hm
      · exact hn (he ▸ List.mem_map_of_mem ho)
      · exact k other (List.mem_cons_of_mem _ ho) hm
    rw [firstOfEachName, if_neg (k column List.mem_cons_self), ih hnodup hrest]

end Entries

section Registration

variable {lib : Library} {tables : List Table} {catalog next : Catalog} {table : Table}

theorem hasId_eq_false (h : List.Forall₂ IsTableEntry tables catalog.tables) {id : String}
    (k : id ∉ tables.map Table.id) : catalog.hasId id = false := by
  have hids : tables.map Table.id = catalog.tables.map CatalogTable.id :=
    map_eq_of_forall₂ h fun _ _ he => he.id.symm
  refine List.any_eq_false.2 fun entry he hid => k ?_
  rw [hids, ← beq_iff_eq.1 hid]
  exact List.mem_map_of_mem he

theorem registered?_eq_none (h : List.Forall₂ IsTableEntry tables catalog.tables) {id : String}
    (k : id ∉ tables.map Table.id) : catalog.registered? id = none := by
  have hkeys : tables.map Table.id = catalog.tables.map fun entry => entry.name.key :=
    map_eq_of_forall₂ h fun _ _ he => he.key_eq.symm
  refine List.find?_eq_none.2 fun entry he hkey => k ?_
  rw [hkeys, ← beq_iff_eq.1 hkey]
  exact List.mem_map_of_mem he

theorem forall₂_addTable (hl : lib.DefinesTables)
    (h : List.Forall₂ IsTableEntry tables catalog.tables) (ht : IsPlainTable table)
    (hid : table.id ∉ tables.map Table.id) (k : catalog.addTable lib [] table = .ok next) :
    List.Forall₂ IsTableEntry (tables ++ [table]) next.tables := by
  have hknown := registered?_eq_none h hid
  have hnew : (catalog.hasId table.id || (catalog.registered? table.qualifiedName).isSome) =
      false := by
    rw [hasId_eq_false h hid, ← ht.id, hknown]
    rfl
  obtain ⟨htaken, _⟩ | ⟨_, counting, columns, _, hcolumns, hregister⟩ := addTable_cases k
  · rw [hnew] at htaken
    cases htaken
  rw [firstOfEachName_of_nodup ht.nodup fun _ _ => List.not_mem_nil] at hcolumns
  have hentries : List.Forall₂ IsColumnEntry table.columns columns :=
    ((List.forall₂_and_left _ _).2 ⟨ht.columns, forall₂_of_mapM hcolumns⟩).imp
      fun _ _ ⟨hc, he⟩ => isColumnEntry_of_ofColumn hc he
  have hindexes : CatalogTable.indexesOf table = [] := by
    simp [CatalogTable.indexesOf, ht.indexes]
  rw [← ht.key_eq] at hknown
  rw [register_of_none hl hregister hknown]
  exact List.rel_append h (.cons ⟨ht, rfl, rfl, ht.note, hentries, hindexes⟩ .nil)

theorem forall₂_addTables (hl : lib.DefinesTables) {more : List Table}
    (h : List.Forall₂ IsTableEntry tables catalog.tables) (hplain : ∀ t ∈ more, IsPlainTable t)
    (hnodup : ((tables ++ more).map Table.id).Nodup)
    (k : more.foldlM (Catalog.addTable lib []) catalog = .ok next) :
    List.Forall₂ IsTableEntry (tables ++ more) next.tables := by
  induction more generalizing tables catalog with
  | nil =>
    obtain rfl := Except.ok.inj k
    rwa [List.append_nil]
  | cons table more ih =>
    rw [List.foldlM_cons] at k
    obtain ⟨middle, hmiddle, k⟩ := exists_of_bind k
    have hid : table.id ∉ tables.map Table.id := by
      rw [List.map_append, List.map_cons] at hnodup
      exact fun hm => (List.nodup_append.1 hnodup).2.2 _ hm _ List.mem_cons_self rfl
    have hadded := forall₂_addTable hl h (hplain table List.mem_cons_self) hid hmiddle
    have happend : tables ++ table :: more = tables ++ [table] ++ more := by simp
    rw [happend] at hnodup ⊢
    exact ih hadded (fun t ht => hplain t (List.mem_cons_of_mem _ ht)) hnodup k

end Registration

section Keys

variable {schema : Schema} {catalog : Catalog}

def ForeignKey.relationship (key : ForeignKey) : Relationship where
  fromTable := key.owner.key
  fromColumn := key.column
  toTable := key.target.key
  toColumn := key.targetColumn
  cardinality := .manyToOne

def Catalog.findEnd? (catalog : Catalog) (table column : String) : Option (TableName × String) :=
  (catalog.table? table).bind fun entry => (entry.column? column).map fun c => (entry.name, c.name)

theorem foreignKey?_eq (ends : KeyEnds) :
    catalog.foreignKey? ends =
      (catalog.findEnd? ends.table ends.column).bind fun owner =>
        (catalog.findEnd? ends.targetTable ends.targetColumn).map fun target =>
          ⟨owner.1, owner.2, target.1, target.2⟩ := by
  unfold Catalog.foreignKey? Catalog.findEnd?
  cases catalog.table? ends.table with
  | none => rfl
  | some owner =>
    cases catalog.table? ends.targetTable with
    | none => simp
    | some target =>
      cases hc : owner.column? ends.column with
      | none => simp [hc]
      | some column => cases ht : target.column? ends.targetColumn <;> simp [hc, ht]

theorem findEnd?_related {R : Table → CatalogTable → Prop}
    {S : Table → Column → CatalogColumn → Prop} {tables : List Table}
    {columnsOf : Table → List Column}
    (h : List.Forall₂ R tables catalog.tables) (hid : ∀ t entry, R t entry → entry.id = t.id)
    (hcolumns : ∀ t entry, R t entry → List.Forall₂ (S t) (columnsOf t) entry.columns)
    (hname : ∀ t c ce, S t c ce → ce.name = c.name) (table column : String) :
    ((tables.find? (·.id == table)).any fun t => (columnsOf t).any (·.name == column)) = false ∧
        catalog.findEnd? table column = none ∨
      ((tables.find? (·.id == table)).any fun t => (columnsOf t).any (·.name == column)) = true ∧
        ∃ t entry c ce, R t entry ∧ S t c ce ∧ entry ∈ catalog.tables ∧ ce ∈ entry.columns ∧
          entry.id = table ∧ ce.name = column ∧
          catalog.findEnd? table column = some (entry.name, column) := by
  unfold Catalog.findEnd? Catalog.table?
  have htables := find?_related (p := fun t => t.id == table)
    (q := fun entry => entry.id == table) h fun t entry he => by rw [hid t entry he]
  rcases htables with ⟨ht, hentry⟩ | ⟨t, entry, ht, hentry, he⟩
  · exact .inl ⟨by rw [ht]; rfl, by rw [hentry]; rfl⟩
  rw [ht, hentry, Option.any_some, Option.bind_some, ← List.isSome_find?]
  have hcolumn := find?_related (p := fun c => c.name == column)
    (q := fun ce => ce.name == column) (hcolumns t entry he) fun c ce hc => by
      rw [hname t c ce hc]
  unfold CatalogTable.column?
  rcases hcolumn with ⟨hc, hce⟩ | ⟨c, ce, hc, hce, hrelated⟩
  · exact .inl ⟨by rw [hc]; rfl, by rw [hce]; rfl⟩
  · have hfound : ce.name = column := by simpa using List.find?_some hce
    exact .inr ⟨by rw [hc]; rfl, t, entry, c, ce, he, hrelated, List.mem_of_find?_eq_some hentry,
      List.mem_of_find?_eq_some hce, by simpa using List.find?_some hentry, hfound,
      by rw [hce, Option.map_some, hfound]⟩

theorem findEnd?_cases (h : List.Forall₂ IsTableEntry schema.tables catalog.tables)
    (table column : String) :
    hasColumn schema table column = false ∧ catalog.findEnd? table column = none ∨
      ∃ name, hasColumn schema table column = true ∧
        catalog.findEnd? table column = some (name, column) ∧ IsPlainName name ∧
        name.key = table ∧ IsName column := by
  rcases findEnd?_related (S := fun _ => IsColumnEntry) h (fun _ _ he => he.id)
    (fun _ _ he => he.columns) (fun _ _ _ hc => hc.name) table column with hnone |
    ⟨hknown, t, entry, c, ce, he, hc, _, _, hid, hname, hfound⟩
  · exact .inl hnone
  · refine .inr ⟨entry.name, hknown, hfound, ?_, ?_, ?_⟩
    · rw [he.name]
      exact ⟨he.plain.schema, he.plain.name⟩
    · rw [he.key_eq, ← he.id, hid]
    · rw [← hname, hc.name]
      exact hc.plain.name

theorem foreignKey?_cases (h : List.Forall₂ IsTableEntry schema.tables catalog.tables)
    (ends : KeyEnds) :
    ends.resolves schema = false ∧ catalog.foreignKey? ends = none ∨
      ∃ key, ends.resolves schema = true ∧ catalog.foreignKey? ends = some key ∧ IsPlainKey key ∧
        key.relationship = ends.relationship := by
  rw [foreignKey?_eq]
  unfold KeyEnds.resolves
  rcases findEnd?_cases h ends.table ends.column with ⟨howner, hnone⟩ |
    ⟨owner, howner, hfound, _, hkey, hcolumn⟩
  · exact .inl ⟨by rw [howner]; rfl, by rw [hnone]; rfl⟩
  rcases findEnd?_cases h ends.targetTable ends.targetColumn with ⟨htarget, hnone⟩ |
    ⟨target, htarget, hfound', hplain, hkey', hcolumn'⟩
  · exact .inl ⟨by rw [howner, htarget]; rfl, by rw [hfound, hnone]; rfl⟩
  · refine .inr ⟨⟨owner, ends.column, target, ends.targetColumn⟩, by rw [howner, htarget]; rfl,
      by rw [hfound, hfound']; rfl, ⟨hcolumn, hplain, hcolumn'⟩, ?_⟩
    simp only [ForeignKey.relationship, KeyEnds.relationship, hkey, hkey']

theorem relationships_of_ends (h : List.Forall₂ IsTableEntry schema.tables catalog.tables)
    (ends : List KeyEnds) :
    (ends.filterMap catalog.foreignKey?).map ForeignKey.relationship =
      (ends.filter (KeyEnds.resolves schema)).map KeyEnds.relationship := by
  induction ends with
  | nil => rfl
  | cons e ends ih =>
    rcases foreignKey?_cases h e with ⟨hr, hk⟩ | ⟨key, hr, hk, _, hrel⟩
    · rw [List.filterMap_cons_none hk, List.filter_cons_of_neg (by simp [hr]), ih]
    · rw [List.filterMap_cons_some hk, List.filter_cons_of_pos hr, List.map_cons, List.map_cons, ih,
        hrel]

theorem isPlainKey_of_mem (h : List.Forall₂ IsTableEntry schema.tables catalog.tables)
    {relationships : List Relationship} {key : ForeignKey}
    (hm : key ∈ catalog.foreignKeysOf relationships) : IsPlainKey key := by
  obtain ⟨ends, _, hkey⟩ := List.mem_filterMap.1 hm
  rcases foreignKey?_cases h ends with ⟨_, hnone⟩ | ⟨found, _, hfound, hplain, _⟩
  · cases hnone.symm.trans hkey
  · obtain rfl := Option.some.inj (hfound.symm.trans hkey)
    exact hplain

end Keys

section Schemas

variable {lib : Library} {schema : Schema} {catalog : Catalog}

structure IsCatalog (schema : Schema) (catalog : Catalog) : Prop where
  tables : List.Forall₂ IsTableEntry schema.tables catalog.tables
  plain : ∀ key ∈ catalog.foreignKeys, IsPlainKey key
  keys : ∀ {table : Table} {entry : CatalogTable}, IsTableEntry table entry →
    (catalog.keysOf entry).map ForeignKey.relationship = keyRelationships schema table

theorem IsPlainSchema.isCatalog (h : IsPlainSchema schema) (hl : lib.DefinesTables)
    (k : Catalog.ofSchema lib schema = .ok catalog) : IsCatalog schema catalog := by
  unfold Catalog.ofSchema at k
  obtain ⟨filled, hfilled, k⟩ := exists_of_bind k
  obtain rfl := Except.ok.inj k
  rw [h.enumerations] at hfilled
  have hnone : List.Forall₂ IsTableEntry [] ({} : Catalog).tables := .nil
  have htables : List.Forall₂ IsTableEntry schema.tables filled.tables :=
    forall₂_addTables hl hnone h.tables h.nodup hfilled
  refine ⟨htables, fun key hm => isPlainKey_of_mem htables hm, fun {table entry} he => ?_⟩
  let isOwn (r : Relationship) : Bool := r.fromTable == table.id
  calc ((filled.foreignKeysOf schema.relationships).filter fun key =>
          key.owner.key == entry.name.key).map ForeignKey.relationship
      _ = ((filled.foreignKeysOf schema.relationships).filter
            (isOwn ∘ ForeignKey.relationship)).map ForeignKey.relationship := by
        rw [he.key_eq]
        rfl
      _ = ((filled.foreignKeysOf schema.relationships).map ForeignKey.relationship).filter isOwn :=
        List.filter_map.symm
      _ = keyRelationships schema table := by
        rw [Catalog.foreignKeysOf, relationships_of_ends htables, List.filter_map,
          List.filter_filter]
        rfl

end Schemas

end SchemaText.Export
