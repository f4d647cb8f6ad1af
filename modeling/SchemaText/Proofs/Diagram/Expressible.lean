import SchemaText.Diagram.Printer
/-! The schemas that the notation can express: every name and text lacks one of the quotation marks
that could enclose it. -/

namespace SchemaText.Diagram

/-- One of the quotation marks does not occur in the text. -/
def Quotable (cs : List Char) : Prop :=
  ∃ mark ∈ marks, mark ∉ cs

instance (cs : List Char) : Decidable (Quotable cs) :=
  decidable_of_iff (marks.any fun mark => !cs.contains mark) (by simp [Quotable])

/-- Each part between dots can be quoted by itself. -/
def QuotableParts (cs : List Char) : Prop :=
  ∀ part ∈ Text.split (· == '.') cs, Quotable part

instance (cs : List Char) : Decidable (QuotableParts cs) :=
  decidable_of_iff ((Text.split (· == '.') cs).all fun part => decide (Quotable part))
    (by simp [QuotableParts])

structure ExpressibleColumn (column : Column) : Prop where
  name_ne : column.name ≠ ""
  type_ne : column.type ≠ ""
  name_quotable : Quotable column.name.toList
  type_quotable : Quotable column.type.toList
  default_quotable :
    ∀ value ∈ column.default, needsQuotes value.toList → Quotable value.toList
  note_quotable : ∀ text ∈ column.note, Quotable text.toList

structure ExpressibleIndex (index : Index) : Prop where
  columns_ne : index.columns ≠ []
  column_ne : ∀ column ∈ index.columns, column ≠ ""
  column_quotable : ∀ column ∈ index.columns, Quotable column.toList
  name_quotable : ∀ name ∈ index.name, Quotable name.toList

/-- The schema of a table is what precedes the first dot of its id. -/
structure ExpressibleTable (table : Table) : Prop where
  id_eq : table.id = table.qualifiedName
  name_ne : table.name ≠ ""
  name_dotFree : table.schema = none → '.' ∉ table.name.toList
  schema_ne : ∀ schema ∈ table.schema, schema ≠ ""
  schema_dotFree : ∀ schema ∈ table.schema, '.' ∉ schema.toList
  id_quotable : QuotableParts table.id.toList
  note_quotable : ∀ text ∈ table.note, Quotable text.toList
  color_none : table.color = none
  columns : ∀ column ∈ table.columns, ExpressibleColumn column
  indexes : ∀ index ∈ table.indexes, ExpressibleIndex index

structure ExpressibleEnumeration (enumeration : Enumeration) : Prop where
  name_quotable : QuotableParts enumeration.name.toList
  value_ne : ∀ value ∈ enumeration.values, value ≠ ""
  value_quotable : ∀ value ∈ enumeration.values, Quotable value.toList

structure ExpressibleRelationship (r : Relationship) : Prop where
  label_none : r.label = none
  fromColumn_dotFree : '.' ∉ r.fromColumn.toList
  toColumn_dotFree : '.' ∉ r.toColumn.toList
  fromTable_quotable : QuotableParts r.fromTable.toList
  fromColumn_quotable : Quotable r.fromColumn.toList
  toTable_quotable : QuotableParts r.toTable.toList
  toColumn_quotable : Quotable r.toColumn.toList

/-- A schema that reads back as it is, though perhaps not without reports of repeated tables. -/
structure Expressible (schema : Schema) : Prop where
  tables : ∀ table ∈ schema.tables, ExpressibleTable table
  relationships : ∀ r ∈ schema.relationships, ExpressibleRelationship r
  enumerations : ∀ enumeration ∈ schema.enumerations, ExpressibleEnumeration enumeration

/-- An expressible schema in which no two tables share an id. -/
structure Renderable (schema : Schema) : Prop extends Expressible schema where
  ids_nodup : (schema.tables.map Table.id).Nodup

end SchemaText.Diagram
