import SchemaText.Diagram.Printer
import SchemaText.Sql.Script
/-! A core grammar of SQL definitions, and the schema that a script in it defines. -/

namespace SchemaText.Sql.Core

open Diagram (isPlain)

/-- A run of ASCII letters, digits and underscores. -/
structure Word where
  chars : List Char
  ne_nil : chars ≠ []
  plain : ∀ c ∈ chars, isPlain c

/-- A table or a type: one name, or two with a dot between them. -/
structure Id where
  schema : Option Word
  name : Word

inductive Flag where
  | notNull
  | unique
  | primaryKey
  deriving DecidableEq

/-- A type, perhaps with arguments in parentheses. -/
structure TypeName where
  word : Word
  arguments : List Word

structure ColumnDefinition where
  name : Word
  type : TypeName
  flags : List Flag

/-- A foreign key pairs each of its columns with one of the table that it refers to. -/
inductive TableClause where
  | column (column : ColumnDefinition)
  | primaryKey (columns : List Word)
  | foreignKey (pairs : List (Word × Word)) (target : Id)
  | unique (columns : List Word)

inductive Definition where
  | table (id : Id) (clauses : List TableClause)
  | index (unique : Bool) (name : Word) (table : Id) (columns : List Word)
  | foreignKey (table : Id) (pairs : List (Word × Word)) (target : Id)
  | enumeration (id : Id) (values : List Word)

section Text

def Id.chars (id : Id) : List Char :=
  match id.schema with
  | none => id.name.chars
  | some schema => schema.chars ++ '.' :: id.name.chars

def Flag.chars : Flag → List Char
  | .notNull => " NOT NULL".toList
  | .unique => " UNIQUE".toList
  | .primaryKey => " PRIMARY KEY".toList

def namesText (names : List Word) : List Char :=
  ", ".toList.intercalate (names.map Word.chars)

def enclosed (text : List Char) : List Char :=
  '(' :: (text ++ [')'])

def TypeName.chars (type : TypeName) : List Char :=
  type.word.chars ++
    if type.arguments = [] then []
    else enclosed ([','].intercalate (type.arguments.map Word.chars))

def ColumnDefinition.chars (column : ColumnDefinition) : List Char :=
  column.name.chars ++ ' ' :: (column.type.chars ++ column.flags.flatMap Flag.chars)

def foreignKeyText (pairs : List (Word × Word)) (target : Id) : List Char :=
  "FOREIGN KEY ".toList ++ enclosed (namesText (pairs.map Prod.fst)) ++ " REFERENCES ".toList ++
    target.chars ++ enclosed (namesText (pairs.map Prod.snd))

def TableClause.chars : TableClause → List Char
  | .column definition => definition.chars
  | .primaryKey columns => "PRIMARY KEY ".toList ++ enclosed (namesText columns)
  | .foreignKey pairs target => foreignKeyText pairs target
  | .unique columns => "UNIQUE ".toList ++ enclosed (namesText columns)

def bodyText (clauses : List TableClause) : List Char :=
  ", ".toList.intercalate (clauses.map TableClause.chars)

def valuesText (values : List Word) : List Char :=
  ", ".toList.intercalate (values.map fun value => '\'' :: (value.chars ++ ['\'']))

/-- A definition up to its semicolon. -/
def Definition.stem : Definition → List Char
  | .table id clauses =>
    "CREATE TABLE ".toList ++ id.chars ++ [' '] ++ enclosed (bodyText clauses)
  | .index unique name owner columns =>
    (if unique then "CREATE UNIQUE INDEX ".toList else "CREATE INDEX ".toList) ++ name.chars ++
      " ON ".toList ++ owner.chars ++ [' '] ++ enclosed (namesText columns)
  | .foreignKey owner pairs target =>
    "ALTER TABLE ".toList ++ owner.chars ++ " ADD ".toList ++ foreignKeyText pairs target
  | .enumeration id values =>
    "CREATE TYPE ".toList ++ id.chars ++ " AS ENUM ".toList ++ enclosed (valuesText values)

def Definition.chars (definition : Definition) : List Char :=
  definition.stem ++ [';']

/-- A script has one definition a line. -/
def scriptText (script : List Definition) : String :=
  String.ofList (['\n'].intercalate (script.map Definition.chars))

end Text

section Meaning

def Word.text (word : Word) : String :=
  String.ofList word.chars

def Id.text (id : Id) : String :=
  String.ofList id.chars

/-- The type in lower case. -/
def TypeName.text (type : TypeName) : String :=
  String.ofList (type.chars.map Char.toLower)

/-- The column, where `keys` are the columns of the primary keys of its table. -/
def ColumnDefinition.column (keys : List String) (column : ColumnDefinition) : Column where
  name := column.name.text
  type := column.type.text
  primaryKey := column.flags.contains .primaryKey || keys.contains column.name.text
  notNull := column.flags.contains .notNull
  unique := column.flags.contains .unique
  autoIncrement :=
    ColumnClause.serialTypes.contains (String.ofList (column.type.word.chars.map Char.toLower))

def relationshipsOf (table : Id) (pairs : List (Word × Word)) (target : Id) : List Relationship :=
  pairs.map fun pair =>
    { fromTable := table.text, fromColumn := pair.1.text
      toTable := target.text, toColumn := pair.2.text
      cardinality := .manyToOne }

def TableClause.column? : TableClause → Option ColumnDefinition
  | .column definition => some definition
  | _ => none

def TableClause.keys : TableClause → List String
  | .primaryKey columns => columns.map Word.text
  | _ => []

def TableClause.index? : TableClause → Option Index
  | .unique columns => some { columns := columns.map Word.text, unique := true }
  | _ => none

def TableClause.relationships (table : Id) : TableClause → List Relationship
  | .foreignKey pairs target => relationshipsOf table pairs target
  | _ => []

def tableOf (id : Id) (clauses : List TableClause) : Table where
  id := id.text
  name := id.name.text
  schema := id.schema.map Word.text
  columns := (clauses.filterMap TableClause.column?).map
    (ColumnDefinition.column (clauses.flatMap TableClause.keys))
  indexes := clauses.filterMap TableClause.index?

def Definition.table? : Definition → Option Table
  | .table id clauses => some (tableOf id clauses)
  | _ => none

def Definition.indexOn? (id : String) : Definition → Option Index
  | .index unique name owner columns =>
    if owner.text = id then
      some { columns := columns.map Word.text, unique := unique, name := some name.text }
    else none
  | _ => none

def Definition.bodyRelationships : Definition → List Relationship
  | .table id clauses => clauses.flatMap (TableClause.relationships id)
  | _ => []

def Definition.addedRelationships : Definition → List Relationship
  | .foreignKey owner pairs target => relationshipsOf owner pairs target
  | _ => []

def Definition.enumeration? : Definition → Option Enumeration
  | .enumeration id values => some { name := id.text, values := values.map Word.text }
  | _ => none

def tablesOf (script : List Definition) : List Table :=
  (script.filterMap Definition.table?).foldl (fun tables table => putTable table tables) []

/-- The schema of a script. The indexes of a table are those of its body and then those of the
script; the relationships are those of all bodies and then those that are added to tables. -/
def schemaOf (script : List Definition) : Schema where
  tables := (tablesOf script).map fun table =>
    { table with indexes := table.indexes ++ script.filterMap (Definition.indexOn? table.id) }
  relationships :=
    script.flatMap Definition.bodyRelationships ++ script.flatMap Definition.addedRelationships
  enumerations := script.filterMap Definition.enumeration?

end Meaning

end SchemaText.Sql.Core
