import SchemaText.Schema
import SchemaText.Export.Catalog
/-! The statements that create types, tables and indexes, and the script that they make up. -/

namespace SchemaText.Export

def strip (text : String) : String :=
  String.ofList (Text.trim text.toList)

def valueLiteral (value : String) : String :=
  String.ofList ('\'' :: Text.double '\'' value.toList ++ ['\''])

namespace Library

variable (lib : Library) (d : Dialect)

/-- Writes a name with its schema in front; an empty schema is none. -/
def quoteQualified (schema : Option String) (name : String) : Except Fault String := do
  let quoted ← lib.quote d name
  match schema with
  | none => return quoted
  | some schema =>
    if schema.isEmpty then return quoted
    else return (← lib.quoteSchema d schema) ++ "." ++ quoted

def createType (e : Enumeration) : Except Fault String := do
  let name := QualifiedName.splitLast e.name
  let quoted ← lib.quoteQualified d name.1 name.2
  return "CREATE TYPE " ++ quoted ++ " AS ENUM (" ++
    ", ".intercalate (e.values.map valueLiteral) ++ ")"

def createTypes (enumerations : List Enumeration) : Except Fault (List String) :=
  match d with
  | .postgresql =>
    (enumerations.filter fun e => !e.values.isEmpty).mapM (lib.createType .postgresql)
  | .mysql | .sqlite => .ok []

def createTable (keys : List ForeignKey) (table : CatalogTable) : Except Fault String := do
  return strip (← lib.tableText d keys table)

def createIndex (table : TableName) (index : CatalogIndex) : Except Fault String := do
  return strip (← lib.indexText d table index)

def statements (schema : Schema) : Except Fault (List String) := do
  let catalog ← Catalog.ofSchema lib schema
  let types ← lib.createTypes d schema.enumerations
  let tables ← catalog.tables.mapM fun table => lib.createTable d (catalog.keysOf table) table
  let indexes ←
    (catalog.tables.flatMap fun table => table.indexes.map fun index => (table.name, index)).mapM
      fun (table, index) => lib.createIndex d table index
  return types ++ tables ++ indexes

def render (schema : Schema) : Except Fault String := do
  let list ← lib.statements d schema
  return if list.isEmpty then "" else ";\n\n".intercalate list ++ ";\n"

def renderNamed (dialect : String) (schema : Schema) : Except Fault String :=
  match Dialect.ofName? dialect with
  | some d => lib.render d schema
  | none => .error (.dialectUnknown dialect)

end Library

end SchemaText.Export
