import SchemaText.Export.Library
/-! The tables, indexes and foreign keys that a schema defines in SQL: without duplicates, and
without anything that refers to what is not defined. -/

namespace SchemaText.Export

structure Catalog where
  tables : List CatalogTable := []
  foreignKeys : List ForeignKey := []
  deriving Repr, DecidableEq

/-- The first column of a primary key that counts up and holds whole numbers. -/
def autoIncrementColumn? (enumerations : List Enumeration) :
    List Column → Except Fault (Option String)
  | [] => .ok none
  | column :: columns =>
    if column.autoIncrement && column.primaryKey then do
      let type ← TypeName.read enumerations column.type
      if type.isInteger then return some column.name
      else autoIncrementColumn? enumerations columns
    else autoIncrementColumn? enumerations columns

def firstOfEachName (seen : List String) : List Column → List Column
  | [] => []
  | column :: columns =>
    if column.name ∈ seen then firstOfEachName seen columns
    else column :: firstOfEachName (column.name :: seen) columns

def CatalogColumn.ofColumn (enumerations : List Enumeration) (counting : Option String)
    (column : Column) : Except Fault CatalogColumn := do
  let type ← TypeName.read enumerations column.type
  return {
    name := column.name
    type := type
    primaryKey := column.primaryKey
    nullable := !(column.notNull || column.primaryKey)
    unique := column.unique
    autoIncrement := counting == some column.name
    default := column.default.map DefaultValue.ofText
    comment := column.note }

def CatalogIndex.ofIndex (table : String) (index : Index) : CatalogIndex where
  name := (index.name.filter fun name => !name.isEmpty).getD
    ("ix_" ++ table ++ "_" ++ "_".intercalate index.columns)
  columns := index.columns
  unique := index.unique

namespace CatalogTable

def column? (table : CatalogTable) (name : String) : Option CatalogColumn :=
  table.columns.find? (·.name == name)

def indexesOf (table : Table) : List CatalogIndex :=
  let isColumn (name : String) : Bool := table.columns.any (·.name == name)
  (table.indexes.filter fun index => !index.columns.isEmpty && index.columns.all isColumn).map
    (CatalogIndex.ofIndex table.name)

end CatalogTable

namespace Catalog

def hasId (catalog : Catalog) (id : String) : Bool :=
  catalog.tables.any (·.id == id)

def registered? (catalog : Catalog) (key : String) : Option CatalogTable :=
  catalog.tables.find? (·.name.key == key)

def register (lib : Library) (catalog : Catalog) (table : Table) (columns : List CatalogColumn) :
    Except Fault Catalog := do
  let indexes := CatalogTable.indexesOf table
  let defined ← lib.define catalog.tables
    { id := table.id, name := ⟨table.schema, table.name⟩, comment := table.note
      columns := columns, indexes := indexes }
  return { catalog with
    tables := catalog.tables ++ [{ defined with id := table.id, indexes := indexes }] }

/-- Adds a table, unless its id or its name is taken. -/
def addTable (lib : Library) (enumerations : List Enumeration) (catalog : Catalog)
    (table : Table) : Except Fault Catalog := do
  if catalog.hasId table.id || (catalog.registered? table.qualifiedName).isSome then
    return catalog
  let counting ← autoIncrementColumn? enumerations table.columns
  let columns ←
    (firstOfEachName [] table.columns).mapM (CatalogColumn.ofColumn enumerations counting)
  catalog.register lib table columns

end Catalog

/-- The ends of a relationship as a foreign key has them: the table and column that refer, and those
that are referred to. -/
structure KeyEnds where
  table : String
  column : String
  targetTable : String
  targetColumn : String
  deriving Repr, DecidableEq

def KeyEnds.ofRelationship? (r : Relationship) : Option KeyEnds :=
  match r.cardinality with
  | .manyToOne | .oneToOne => some ⟨r.fromTable, r.fromColumn, r.toTable, r.toColumn⟩
  | .oneToMany => some ⟨r.toTable, r.toColumn, r.fromTable, r.fromColumn⟩
  | .manyToMany => none

namespace Catalog

def table? (catalog : Catalog) (id : String) : Option CatalogTable :=
  catalog.tables.find? (·.id == id)

def foreignKey? (catalog : Catalog) (ends : KeyEnds) : Option ForeignKey := do
  let owner ← catalog.table? ends.table
  let target ← catalog.table? ends.targetTable
  let column ← owner.column? ends.column
  let targetColumn ← target.column? ends.targetColumn
  return ⟨owner.name, column.name, target.name, targetColumn.name⟩

def foreignKeysOf (catalog : Catalog) (relationships : List Relationship) : List ForeignKey :=
  (relationships.filterMap KeyEnds.ofRelationship?).filterMap catalog.foreignKey?

def ofSchema (lib : Library) (schema : Schema) : Except Fault Catalog := do
  let catalog ← schema.tables.foldlM (addTable lib schema.enumerations) {}
  return { catalog with foreignKeys := catalog.foreignKeysOf schema.relationships }

def keysOf (catalog : Catalog) (table : CatalogTable) : List ForeignKey :=
  catalog.foreignKeys.filter fun key => key.owner.key == table.name.key

end Catalog

end SchemaText.Export
