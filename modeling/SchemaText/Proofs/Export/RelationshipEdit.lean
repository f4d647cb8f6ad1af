import Mathlib.Logic.Relation
import SchemaText.Proofs.Export.BuiltCatalog
/-! What a script shows of the relationships of a schema: the foreign keys that they stand for and
nothing else, so that no edit that keeps the keys changes the script or the fault. -/

namespace SchemaText.Export

section Meaning

def Builds (lib : Library) (schema : Schema) (table column : String) : Prop :=
  ∃ catalog, Catalog.ofSchema lib schema = .ok catalog ∧
    ∃ name, HasColumn catalog.tables table column name

def IsKeyless (lib : Library) (schema : Schema) (r : Relationship) : Prop :=
  r.cardinality = .manyToMany ∨ ¬ Builds lib schema r.fromTable r.fromColumn ∨
    ¬ Builds lib schema r.toTable r.toColumn

def turned (r : Relationship) (cardinality : Cardinality) : Relationship where
  fromTable := r.toTable
  fromColumn := r.toColumn
  toTable := r.fromTable
  toColumn := r.fromColumn
  cardinality := cardinality
  label := r.label

inductive Retold : Relationship → Relationship → Prop
  | fromOne {r : Relationship} (h : r.cardinality = .manyToOne) : Retold r (turned r .oneToMany)
  | fromMany {r : Relationship} (h : r.cardinality = .oneToMany) : Retold r (turned r .manyToOne)
  | single {r : Relationship} (h : r.cardinality = .manyToOne) :
    Retold r { r with cardinality := .oneToOne }
  | labelled (r : Relationship) (label : Option String) : Retold r { r with label := label }

/-- One change in a list of relationships: one of them is replaced by another one with the same ends
of a foreign key, or one without a foreign key comes in or goes out. -/
inductive Edit (lib : Library) (schema : Schema) : List Relationship → List Relationship → Prop
  | replace (before after : List Relationship) {r other : Relationship}
    (h : KeyEnds.ofRelationship? r = KeyEnds.ofRelationship? other) :
    Edit lib schema (before ++ r :: after) (before ++ other :: after)
  | insert (before after : List Relationship) {r : Relationship} (h : IsKeyless lib schema r) :
    Edit lib schema (before ++ after) (before ++ r :: after)
  | delete (before after : List Relationship) {r : Relationship} (h : IsKeyless lib schema r) :
    Edit lib schema (before ++ r :: after) (before ++ after)

end Meaning

def Catalog.keyOf? (catalog : Catalog) (r : Relationship) : Option ForeignKey :=
  (KeyEnds.ofRelationship? r).bind catalog.foreignKey?

section Keys

variable {lib : Library} {schema : Schema} {catalog : Catalog} {table column : String}
  {ends : KeyEnds}
  {key : ForeignKey} {r other : Relationship}

theorem foreignKeysOf_eq_filterMap (catalog : Catalog) (relationships : List Relationship) :
    catalog.foreignKeysOf relationships = relationships.filterMap catalog.keyOf? :=
  List.filterMap_filterMap

theorem hasColumn_of_findEnd? {found : TableName × String}
    (h : catalog.findEnd? table column = some found) :
    HasColumn catalog.tables table column found.1 := by
  obtain ⟨entry, hentry, h⟩ := Option.bind_eq_some_iff.1 h
  obtain ⟨c, hc, rfl⟩ := Option.map_eq_some_iff.1 h
  have hid : entry.id = table := by simpa using List.find?_some hentry
  have hname : c.name = column := by simpa using List.find?_some hc
  exact ⟨entry, List.mem_of_find?_eq_some hentry, hid, rfl,
    List.mem_map.2 ⟨c, List.mem_of_find?_eq_some hc, hname⟩⟩

theorem builds_of_foreignKey? (k : Catalog.ofSchema lib schema = .ok catalog)
    (h : catalog.foreignKey? ends = some key) :
    Builds lib schema ends.table ends.column ∧
      Builds lib schema ends.targetTable ends.targetColumn := by
  rw [foreignKey?_eq] at h
  obtain ⟨owner, howner, h⟩ := Option.bind_eq_some_iff.1 h
  obtain ⟨target, htarget, _⟩ := Option.map_eq_some_iff.1 h
  exact ⟨⟨catalog, k, owner.1, hasColumn_of_findEnd? howner⟩,
    ⟨catalog, k, target.1, hasColumn_of_findEnd? htarget⟩⟩

theorem eq_or_eq_of_ofRelationship? (h : KeyEnds.ofRelationship? r = some ends) :
    r.cardinality ≠ .manyToMany ∧
      (ends = ⟨r.fromTable, r.fromColumn, r.toTable, r.toColumn⟩ ∨
        ends = ⟨r.toTable, r.toColumn, r.fromTable, r.fromColumn⟩) := by
  unfold KeyEnds.ofRelationship? at h
  cases hc : r.cardinality with
  | manyToOne | oneToOne =>
    rw [hc] at h
    exact ⟨nofun, .inl (Option.some.inj h).symm⟩
  | oneToMany =>
    rw [hc] at h
    exact ⟨nofun, .inr (Option.some.inj h).symm⟩
  | manyToMany =>
    rw [hc] at h
    cases h

theorem IsKeyless.keyOf?_eq_none (h : IsKeyless lib schema r)
    (k : Catalog.ofSchema lib schema = .ok catalog) : catalog.keyOf? r = none := by
  refine Option.eq_none_iff_forall_ne_some.2 fun key hkey => ?_
  obtain ⟨ends, hends, hkey⟩ := Option.bind_eq_some_iff.1 hkey
  obtain ⟨howner, htarget⟩ := builds_of_foreignKey? k hkey
  obtain ⟨hone, hends⟩ := eq_or_eq_of_ofRelationship? hends
  -- Whichever end refers, both ends of the relationship are built.
  have hbuilt : Builds lib schema r.fromTable r.fromColumn ∧
      Builds lib schema r.toTable r.toColumn := by
    rcases hends with rfl | rfl
    · exact ⟨howner, htarget⟩
    · exact ⟨htarget, howner⟩
  rcases h with hmany | hfrom | hto
  · exact hone hmany
  · exact hfrom hbuilt.1
  · exact hto hbuilt.2

theorem Retold.ofRelationship?_eq (h : Retold r other) :
    KeyEnds.ofRelationship? r = KeyEnds.ofRelationship? other := by
  cases h with
  | fromOne h | fromMany h | single h => simp only [KeyEnds.ofRelationship?, turned, h]
  | labelled => rfl

theorem Edit.foreignKeysOf_eq {before after : List Relationship}
    (h : Edit lib schema before after) (k : Catalog.ofSchema lib schema = .ok catalog) :
    catalog.foreignKeysOf after = catalog.foreignKeysOf before := by
  rw [foreignKeysOf_eq_filterMap, foreignKeysOf_eq_filterMap]
  cases h with
  | @replace _ _ r other h =>
    have hkey : catalog.keyOf? r = catalog.keyOf? other :=
      congrArg (·.bind catalog.foreignKey?) h
    rw [List.filterMap_append, List.filterMap_append, List.filterMap_cons, List.filterMap_cons,
      hkey]
  | insert _ _ h | delete _ _ h =>
    rw [List.filterMap_append, List.filterMap_append, List.filterMap_cons_none (h.keyOf?_eq_none k)]

end Keys

section Scripts

variable {lib : Library} {schema : Schema} {relationships : List Relationship}

theorem ofSchema_congr (h : ∀ catalog, Catalog.ofSchema lib schema = .ok catalog →
      catalog.foreignKeysOf relationships = catalog.foreignKeysOf schema.relationships) :
    Catalog.ofSchema lib { schema with relationships := relationships } =
      Catalog.ofSchema lib schema := by
  unfold Catalog.ofSchema at h ⊢
  dsimp only
  cases hfilled : schema.tables.foldlM (Catalog.addTable lib schema.enumerations) {} with
  | error fault => rfl
  | ok filled =>
    rw [hfilled] at h
    -- The keys are looked up in the tables alone, which both lists leave as they are.
    have hkeys : filled.foreignKeysOf relationships = filled.foreignKeysOf schema.relationships :=
      h { filled with foreignKeys := filled.foreignKeysOf schema.relationships } rfl
    exact congrArg (fun keys => Except.ok { filled with foreignKeys := keys }) hkeys

theorem renderNamed_congr (dialect : String)
    (h : Catalog.ofSchema lib { schema with relationships := relationships } =
      Catalog.ofSchema lib schema) :
    lib.renderNamed dialect { schema with relationships := relationships } =
      lib.renderNamed dialect schema := by
  unfold Library.renderNamed Library.render Library.statements
  rw [h]

theorem foreignKeysOf_of_edits {catalog : Catalog}
    (h : Relation.ReflTransGen (Edit lib schema) schema.relationships relationships)
    (k : Catalog.ofSchema lib schema = .ok catalog) :
    catalog.foreignKeysOf relationships = catalog.foreignKeysOf schema.relationships := by
  induction h with
  | refl => rfl
  | tail _ step ih => rw [step.foreignKeysOf_eq k, ih]

/-- In every dialect, known or not, the script or the fault is the same before and after any edits,
whatever the library does; and however a relationship is retold, its foreign key has the same ends.
-/
theorem renderNamed_eq_of_edits (lib : Library) (schema : Schema) :
    (∀ (dialect : String) (relationships : List Relationship),
      Relation.ReflTransGen (Edit lib schema) schema.relationships relationships →
        lib.renderNamed dialect { schema with relationships := relationships } =
          lib.renderNamed dialect schema) ∧
      ∀ r other, Retold r other → KeyEnds.ofRelationship? r = KeyEnds.ofRelationship? other := by
  refine ⟨fun dialect relationships h => ?_, fun r other => Retold.ofRelationship?_eq⟩
  exact renderNamed_congr dialect (ofSchema_congr fun catalog k => foreignKeysOf_of_edits h k)

theorem builds_iff (hl : lib.DefinesTables) {catalog : Catalog}
    (h : ∀ t ∈ schema.tables, t.schema ≠ some "") (k : Catalog.ofSchema lib schema = .ok catalog)
    (table column : String) :
    Builds lib schema table column ↔ isBuiltColumn schema table column := by
  have hbuilt := isBuiltCatalog_of_ofSchema hl h k
  constructor
  · rintro ⟨other, ko, name, entry, hentry, hid, hname, hcolumn⟩
    obtain rfl := Except.ok.inj (k.symm.trans ko)
    obtain ⟨source, hsource, ht⟩ := exists_left_of_mem hbuilt.tables hentry
    rw [← ht.names_eq] at hcolumn
    obtain ⟨c, hc, hname⟩ := List.mem_map.1 hcolumn
    refine List.any_eq_true.2 ⟨source, hsource, Bool.and_eq_true_iff.2 ⟨?_, ?_⟩⟩
    · rw [beq_iff_eq, ← ht.id, hid]
    · exact List.any_eq_true.2 ⟨c, hc, beq_iff_eq.2 hname⟩
  · intro hknown
    rcases findEnd?_built hbuilt.tables table column with ⟨hnone, _⟩ | ⟨name, _, _, hcolumn⟩
    · rw [hknown] at hnone
      cases hnone
    · exact ⟨catalog, k, name, hcolumn⟩

def ownership : Relationship where
  fromTable := "order"
  fromColumn := "owner"
  toTable := "user"
  toColumn := "id"
  cardinality := .manyToOne

def ownedSchema : Schema where
  tables := [
    { id := "user", name := "user", columns := [{ name := "id", type := "int" }] },
    { id := "order", name := "order", columns := [{ name := "owner", type := "int" }] }]
  relationships := [ownership]

def editedRelationships : List Relationship :=
  [{ fromTable := "user", fromColumn := "id", toTable := "order", toColumn := "owner"
     cardinality := .manyToMany },
    turned ownership .oneToMany,
    { fromTable := "order", fromColumn := "item", toTable := "user", toColumn := "id" }]

theorem renderNamed_editedRelationships :
    Relation.ReflTransGen (Edit compiler ownedSchema) ownedSchema.relationships
        editedRelationships ∧
      renderNamed "mysql" { ownedSchema with relationships := editedRelationships } =
        renderNamed "mysql" ownedSchema ∧
      Retold ownership (turned ownership .oneToMany) ∧
      KeyEnds.ofRelationship? ownership =
        KeyEnds.ofRelationship? (turned ownership .oneToMany) := by
  have hs : ∀ t ∈ ownedSchema.tables, t.schema ≠ some "" := by decide
  have hitem : ¬ Builds compiler ownedSchema "order" "item" := by
    intro hb
    obtain ⟨catalog, k, _⟩ := id hb
    exact absurd ((builds_iff compiler_definesTables hs k "order" "item").1 hb)
      (by decide +kernel)
  have htold : Retold ownership (turned ownership .oneToMany) := .fromOne rfl
  have hedits : Relation.ReflTransGen (Edit compiler ownedSchema) ownedSchema.relationships
      editedRelationships :=
    ((Relation.ReflTransGen.single (.replace [] [] htold.ofRelationship?_eq)).tail
      (.insert [] _ (.inl rfl))).tail (.insert [_, _] [] (.inr (.inl hitem)))
  have hall := renderNamed_eq_of_edits compiler ownedSchema
  exact ⟨hedits, hall.1 "mysql" editedRelationships hedits, htold, hall.2 _ _ htold⟩

end Scripts

end SchemaText.Export
