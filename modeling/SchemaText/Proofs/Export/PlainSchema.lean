import SchemaText.Proofs.Export.KnownType
import SchemaText.Proofs.Export.QuotedName
import SchemaText.Reading
/-! Schemas of plain names and known types, and what a reader of their definitions is to find. -/

namespace SchemaText.Export

open Pattern (spells)
open Sql.Written (columnKeywords)

structure IsPlainColumn (column : Column) : Prop where
  name : IsName column.name
  named : columnKeywords.all fun letters => !spells letters column.name.toList
  type : IsKnownType column.type
  default : column.default = none
  note : column.note = none

structure IsPlainTable (table : Table) : Prop where
  id : table.id = table.qualifiedName
  schema : ∀ schema ∈ table.schema, IsName schema
  name : IsName table.name
  columns_ne : table.columns ≠ []
  nodup : (table.columns.map Column.name).Nodup
  columns : ∀ column ∈ table.columns, IsPlainColumn column
  indexes : table.indexes = []
  note : table.note = none

structure IsPlainSchema (schema : Schema) : Prop where
  enumerations : schema.enumerations = []
  nodup : (schema.tables.map Table.id).Nodup
  tables : ∀ table ∈ schema.tables, IsPlainTable table

section Meaning

def hasColumn (schema : Schema) (table column : String) : Bool :=
  (schema.tables.find? (·.id == table)).any fun t => t.columns.any (·.name == column)

def KeyEnds.resolves (schema : Schema) (ends : KeyEnds) : Bool :=
  hasColumn schema ends.table ends.column && hasColumn schema ends.targetTable ends.targetColumn

/-- The relationship that a foreign key is read as. -/
def KeyEnds.relationship (ends : KeyEnds) : Relationship where
  fromTable := ends.table
  fromColumn := ends.column
  toTable := ends.targetTable
  toColumn := ends.targetColumn
  cardinality := .manyToOne

def keyRelationships (schema : Schema) (table : Table) : List Relationship :=
  ((schema.relationships.filterMap KeyEnds.ofRelationship?).filter fun ends =>
    ends.table == table.id && ends.resolves schema).map KeyEnds.relationship

structure ColumnShape where
  name : String
  primaryKey : Bool
  notNull : Bool
  deriving Repr, DecidableEq

structure TableShape where
  id : String
  columns : List ColumnShape
  deriving Repr, DecidableEq

def ColumnShape.ofColumn (column : Column) : ColumnShape :=
  ⟨column.name, column.primaryKey, column.notNull⟩

def ColumnShape.ofDefined (column : Column) : ColumnShape :=
  ⟨column.name, column.primaryKey, column.notNull || column.primaryKey⟩

def TableShape.ofTable (table : Table) : TableShape :=
  ⟨table.id, table.columns.map ColumnShape.ofColumn⟩

def TableShape.ofDefined (table : Table) : TableShape :=
  ⟨table.id, table.columns.map ColumnShape.ofDefined⟩

/-- Nothing is reported, tables and columns come back in their order, and the relationships are the
foreign keys, table by table. -/
structure IsReadBack (schema : Schema) (reading : Reading) : Prop where
  diagnostics : reading.diagnostics = []
  tables : reading.schema.tables.map TableShape.ofTable =
    schema.tables.map TableShape.ofDefined
  relationships : reading.schema.relationships = schema.tables.flatMap (keyRelationships schema)

end Meaning

end SchemaText.Export
