import SchemaText.Export.DefaultValue
import SchemaText.Export.TypeName
/-! The tables, indexes and foreign keys that are defined in SQL, and the library that compiles
their definitions, of which nothing is known but its operations. -/

namespace SchemaText.Export

structure CatalogColumn where
  name : String
  type : DataType
  primaryKey : Bool
  nullable : Bool
  unique : Bool
  autoIncrement : Bool
  default : Option DefaultValue
  comment : Option String
  deriving Repr, DecidableEq

structure CatalogIndex where
  name : String
  columns : List String
  unique : Bool
  deriving Repr, DecidableEq

structure TableName where
  schema : Option String
  name : String
  deriving Repr, DecidableEq

/-- The name under which a table is registered; an empty schema leaves its dot. -/
def TableName.key (t : TableName) : String :=
  match t.schema with
  | none => t.name
  | some schema => schema ++ "." ++ t.name

structure CatalogTable where
  id : String
  name : TableName
  comment : Option String
  columns : List CatalogColumn
  indexes : List CatalogIndex
  deriving Repr, DecidableEq

structure ForeignKey where
  owner : TableName
  column : String
  target : TableName
  targetColumn : String
  deriving Repr, DecidableEq

/-- What is used of the library: how it writes names, what it makes of a table that is defined
beside others, and the texts of the statements that create tables and indexes. -/
structure Library where
  quote : Dialect → String → Except Fault String
  quoteSchema : Dialect → String → Except Fault String
  define : List CatalogTable → CatalogTable → Except Fault CatalogTable
  tableText : Dialect → List ForeignKey → CatalogTable → Except Fault String
  indexText : Dialect → TableName → CatalogIndex → Except Fault String

end SchemaText.Export
