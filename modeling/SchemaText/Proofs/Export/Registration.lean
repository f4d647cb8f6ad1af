import SchemaText.Export.Compiler
import SchemaText.Proofs.Export.Chain
/-! One step in the building of a catalog: what comes of a table that is added without a fault. -/

namespace SchemaText.Export

/-- What the library makes of a table is this table, or the known one of its name. -/
def Library.DefinesTables (lib : Library) : Prop :=
  ∀ known table defined, lib.define known table = .ok defined →
    defined = table ∨ defined ∈ known ∧ defined.name.key = table.name.key

theorem compiler_definesTables : compiler.DefinesTables := by
  intro known table defined k
  have k : Compiler.define known table = .ok defined := k
  unfold Compiler.define at k
  split at k
  · next old hold =>
    split at k
    · obtain rfl := Except.ok.inj k
      exact .inr ⟨List.mem_of_find?_eq_some hold, by simpa using List.find?_some hold⟩
    · cases k
  · split at k
    · cases k
    · exact .inl (Except.ok.inj k).symm

variable {lib : Library} {enumerations : List Enumeration} {catalog next : Catalog} {table : Table}
  {columns : List CatalogColumn}

def newEntry (table : Table) (columns : List CatalogColumn) : CatalogTable where
  id := table.id
  name := ⟨table.schema, table.name⟩
  comment := table.note
  columns := columns
  indexes := CatalogTable.indexesOf table

theorem exists_of_register (k : catalog.register lib table columns = .ok next) :
    ∃ defined, lib.define catalog.tables (newEntry table columns) = .ok defined ∧
      next = { catalog with tables := catalog.tables ++
        [{ defined with id := table.id, indexes := CatalogTable.indexesOf table }] } := by
  unfold Catalog.register at k
  obtain ⟨defined, hdefined, k⟩ := exists_of_bind k
  exact ⟨defined, hdefined, (Except.ok.inj k).symm⟩

theorem register_of_none (hl : lib.DefinesTables)
    (k : catalog.register lib table columns = .ok next)
    (h : catalog.registered? (TableName.key ⟨table.schema, table.name⟩) = none) :
    next = { catalog with tables := catalog.tables ++ [newEntry table columns] } := by
  obtain ⟨defined, hdefined, rfl⟩ := exists_of_register k
  rcases hl _ _ _ hdefined with rfl | ⟨hm, hkey⟩
  · rfl
  · exact absurd (beq_iff_eq.2 hkey) (List.find?_eq_none.1 h defined hm)

theorem forall_columns_of_register (hl : lib.DefinesTables) {P : List CatalogColumn → Prop}
    (h : ∀ entry ∈ catalog.tables, P entry.columns) (hp : P columns)
    (k : catalog.register lib table columns = .ok next) :
    ∀ entry ∈ next.tables, P entry.columns := by
  obtain ⟨defined, hdefined, rfl⟩ := exists_of_register k
  refine List.forall_mem_append.2 ⟨h, List.forall_mem_singleton.2 ?_⟩
  rcases hl _ _ _ hdefined with rfl | ⟨hm, _⟩
  · exact hp
  · exact h defined hm

theorem addTable_cases (k : catalog.addTable lib enumerations table = .ok next) :
    ((catalog.hasId table.id || (catalog.registered? table.qualifiedName).isSome) = true ∧
      next = catalog) ∨
    ((catalog.hasId table.id || (catalog.registered? table.qualifiedName).isSome) = false ∧
      ∃ counting columns, autoIncrementColumn? enumerations table.columns = .ok counting ∧
        (firstOfEachName [] table.columns).mapM (CatalogColumn.ofColumn enumerations counting) =
          .ok columns ∧
        catalog.register lib table columns = .ok next) := by
  unfold Catalog.addTable at k
  split at k
  · next htaken => exact .inl ⟨htaken, (Except.ok.inj k).symm⟩
  · next hnew =>
    obtain ⟨counting, hcounting, k⟩ := exists_of_bind k
    obtain ⟨columns, hcolumns, k⟩ := exists_of_bind k
    exact .inr ⟨Bool.eq_false_iff.2 hnew, counting, columns, hcounting, hcolumns, k⟩

end SchemaText.Export
