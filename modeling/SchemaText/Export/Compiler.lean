import SchemaText.Text.Character
import SchemaText.Export.Definition
import SchemaText.Export.Compiler.Name
/-! The library that the program uses: types, columns and constraints as each dialect has them. -/

namespace SchemaText.Export

namespace DataType

def lengthMissing : Fault :=
  .library .rendering "VARCHAR requires a length on dialect mysql"

def enumNameMissing : Fault :=
  .library .rendering "PostgreSQL Enum type requires a name."

def canIncrement : DataType → Bool
  | numeric .. | float => true
  | type => type.isInteger

def sized (name : String) : Option Nat → String
  | none | some 0 => name
  | some length => name ++ "(" ++ toString length ++ ")"

def sizedExactly (name : String) : Option Nat → String
  | none => name
  | some length => name ++ "(" ++ toString length ++ ")"

def longest (values : List String) : Nat :=
  values.foldl (fun n value => max n value.length) 0

def enumLiteral (value : String) : String :=
  String.ofList ('\'' :: Text.double '%' (Text.double '\'' value.toList) ++ ['\''])

def renderSqlite : DataType → String
  | integer => "INTEGER"
  | bigInteger => "BIGINT"
  | smallInteger => "SMALLINT"
  | string length => sized "VARCHAR" length
  | char length => sized "CHAR" length
  | text => "TEXT"
  | boolean => "BOOLEAN"
  | date => "DATE"
  | dateTime _ => "DATETIME"
  | time => "TIME"
  | numeric none _ => "NUMERIC"
  | numeric (some precision) none => "NUMERIC(" ++ toString precision ++ ")"
  | numeric (some precision) (some scale) =>
    "NUMERIC(" ++ toString precision ++ ", " ++ toString scale ++ ")"
  | float => "FLOAT"
  | binary _ => "BLOB"
  | json => "JSON"
  | uuid => "CHAR(32)"
  | enumeration _ _ values => sized "VARCHAR" (some (longest values))
  | raw definition => definition

def renderPostgresql : DataType → Except Fault String
  | dateTime false => .ok "TIMESTAMP WITHOUT TIME ZONE"
  | dateTime true => .ok "TIMESTAMP WITH TIME ZONE"
  | time => .ok "TIME WITHOUT TIME ZONE"
  | binary _ => .ok "BYTEA"
  | uuid => .ok "UUID"
  | enumeration schema name _ =>
    if name.isEmpty then .error enumNameMissing else Dialect.postgresql.quoteQualified schema name
  | type => .ok type.renderSqlite

def renderMysql : DataType → Except Fault String
  | string none => .error lengthMissing
  | string length => .ok (sizedExactly "VARCHAR" length)
  | char length => .ok (sizedExactly "CHAR" length)
  | binary length => .ok (sizedExactly "BLOB" length)
  | boolean => .ok "BOOL"
  | enumeration _ _ values => .ok ("ENUM(" ++ ",".intercalate (values.map enumLiteral) ++ ")")
  | type => .ok type.renderSqlite

def render (d : Dialect) (type : DataType) : Except Fault String :=
  match d with
  | .postgresql => type.renderPostgresql
  | .mysql => type.renderMysql
  | .sqlite => .ok type.renderSqlite

def serial : DataType → String
  | bigInteger => "BIGSERIAL"
  | smallInteger => "SMALLSERIAL"
  | _ => "SERIAL"

end DataType

namespace DefaultValue

def render (d : Dialect) : DefaultValue → String
  | literal text => d.literal text
  | expression text =>
    if d.doublesEscapes then String.ofList (Text.double '%' text.toList) else text

def needsParentheses (rendered : List Char) : Bool :=
  !((Text.trimStart rendered).head?.any fun c => c == '\'' || c == '"' || c == '(') &&
    rendered.any fun c => !Text.isWord c

end DefaultValue

def Fault.within (table column : String) (fault : Fault) : Fault :=
  if fault.kind = .rendering then
    .library .rendering
      ("(in table '" ++ table ++ "', column '" ++ column ++ "'): " ++ fault.message)
  else fault

def CatalogTable.counting? (table : CatalogTable) : Option CatalogColumn :=
  table.columns.find? fun column => column.primaryKey && column.autoIncrement

def CatalogTable.checkCounting (table : CatalogTable) : Except Fault Unit :=
  match table.counting? with
  | some column =>
    if column.type.canIncrement then .ok ()
    else .error (.autoIncrementType column.type.renderSqlite table.name.name column.name)
  | none => .ok ()

def CatalogTable.keyColumns (table : CatalogTable) : List CatalogColumn :=
  let keys := table.columns.filter (·.primaryKey)
  match table.counting? with
  | some column => column :: keys.filter (·.name != column.name)
  | none => keys

namespace Dialect

def notNull (column : CatalogColumn) : String :=
  if column.nullable then "" else " NOT NULL"

def defaultPart (d : Dialect) (column : CatalogColumn) : String :=
  match column.default with
  | none => ""
  | some value => " DEFAULT " ++ value.render d

def postgresqlColumn (table : CatalogTable) (column : CatalogColumn) : Except Fault String := do
  let name ← postgresql.quoteName column.name
  if column.primaryKey then table.checkCounting
  if column.primaryKey && column.autoIncrement then
    return name ++ " " ++ column.type.serial ++ notNull column
  else
    return name ++ " " ++ (← column.type.render postgresql) ++
      postgresql.defaultPart column ++ notNull column

def mysqlColumn (table : CatalogTable) (column : CatalogColumn) : Except Fault String := do
  let name ← mysql.quoteName column.name
  let type ← column.type.render mysql
  table.checkCounting
  let comment := column.comment.elim "" fun text => " COMMENT " ++ mysql.literal text
  let last :=
    if column.primaryKey && column.autoIncrement && column.default.isNone then " AUTO_INCREMENT"
    else mysql.defaultPart column
  return name ++ " " ++ type ++ notNull column ++ comment ++ last

def sqliteColumn (table : CatalogTable) (column : CatalogColumn) : Except Fault String := do
  let type ← column.type.render sqlite
  let name ← sqlite.quoteName column.name
  let default := column.default.elim "" fun value =>
    let rendered := value.render sqlite
    if DefaultValue.needsParentheses rendered.toList then " DEFAULT (" ++ rendered ++ ")"
    else " DEFAULT " ++ rendered
  if column.primaryKey && column.autoIncrement &&
      1 < (table.columns.filter (·.primaryKey)).length then
    throw (.library .rendering
      "SQLite does not support autoincrement for composite primary keys")
  return name ++ " " ++ type ++ default ++ notNull column

def columnEntry (d : Dialect) (table : CatalogTable) (column : CatalogColumn) :
    Except Fault String :=
  let entry :=
    match d with
    | postgresql => postgresqlColumn table column
    | mysql => mysqlColumn table column
    | sqlite => sqliteColumn table column
  entry.mapError (Fault.within table.name.name column.name)

def primaryKeyEntry (d : Dialect) (table : CatalogTable) : Except Fault (List String) := do
  if table.columns.any (·.primaryKey) then
    table.checkCounting
    return ["PRIMARY KEY (" ++ (← d.quoteNames (table.keyColumns.map (·.name))) ++ ")"]
  else return []

def uniqueEntries (d : Dialect) (table : CatalogTable) : Except Fault (List String) :=
  (table.columns.filter (·.unique)).mapM fun column => do
    return "UNIQUE (" ++ (← d.quoteName column.name) ++ ")"

def quoteReference (d : Dialect) (t : TableName) : Except Fault String :=
  match d with
  | sqlite => sqlite.quoteName t.name
  | d => d.quoteQualified t.schema t.name

def foreignKeyEntries (d : Dialect) (keys : List ForeignKey) : Except Fault (List String) :=
  let possible := keys.filter fun key => d != sqlite || key.owner.schema == key.target.schema
  possible.mapM fun key => do
    return "FOREIGN KEY(" ++ (← d.quoteName key.column) ++ ") REFERENCES " ++
      (← d.quoteReference key.target) ++ " (" ++ (← d.quoteName key.targetColumn) ++ ")"

def tableComment (d : Dialect) (table : CatalogTable) : String :=
  match d with
  | mysql => table.comment.elim "" fun text => "COMMENT=" ++ mysql.literal text
  | postgresql | sqlite => ""

/-- The text that defines a table stands on lines of its own. -/
def tableText (d : Dialect) (keys : List ForeignKey) (table : CatalogTable) :
    Except Fault String := do
  let name ← d.quoteQualified table.name.schema table.name.name
  let columns ← table.columns.mapM (d.columnEntry table)
  let primary ← d.primaryKeyEntry table
  let unique ← d.uniqueEntries table
  let foreign ← d.foreignKeyEntries keys
  let entries := (columns ++ primary ++ unique ++ foreign).map ("\n\t" ++ ·)
  return "\nCREATE TABLE " ++ name ++ " (" ++ ", ".intercalate entries ++ "\n)" ++
    d.tableComment table ++ "\n\n"

def maxNameLength : Dialect → Nat
  | postgresql => 63
  | mysql => 255
  | sqlite => 9999

def checkLength (d : Dialect) (name : String) : Except Fault Unit :=
  if d.maxNameLength < name.length then
    .error (.library .naming ("Identifier '" ++ name ++ "' exceeds maximum length of " ++
      toString d.maxNameLength ++ " characters"))
  else .ok ()

def indexText (d : Dialect) (table : TableName) (index : CatalogIndex) : Except Fault String := do
  d.checkLength index.name
  let name ←
    match d with
    | sqlite => sqlite.quoteQualified table.schema index.name
    | d => d.quoteName index.name
  let tableName ← d.quoteReference table
  let columns ← d.quoteNames index.columns
  return "CREATE " ++ (if index.unique then "UNIQUE " else "") ++ "INDEX " ++ name ++ " ON " ++
    tableName ++ " (" ++ columns ++ ")"

end Dialect

namespace Compiler

def columnNameEmpty : Fault :=
  .library .definition
    ("Column must be constructed with a non-blank name or assign a non-blank .name before " ++
      "adding to a Table.")

def tableTwice (name : String) : Fault :=
  .library .registration
    ("Table '" ++ name ++ "' is already defined for this MetaData instance.  Specify " ++
      "'extend_existing=True' to redefine options and columns on an existing Table object.")

/-- A name that is taken can only be used again by a table without columns, which then stands for
the known one. -/
def define (known : List CatalogTable) (table : CatalogTable) : Except Fault CatalogTable :=
  match known.find? (·.name.key == table.name.key) with
  | some old => if table.columns.isEmpty then .ok old else .error (tableTwice table.name.key)
  | none => if table.columns.any (·.name.isEmpty) then .error columnNameEmpty else .ok table

end Compiler

def compiler : Library where
  quote := Dialect.quoteName
  quoteSchema := Dialect.quoteName
  define := Compiler.define
  tableText := Dialect.tableText
  indexText := Dialect.indexText

def Dialect.createType (d : Dialect) (e : Enumeration) : Except Fault String :=
  compiler.createType d e

def renderNamed (dialect : String) (schema : Schema) : Except Fault String :=
  compiler.renderNamed dialect schema

end SchemaText.Export
