import SchemaText.Proofs.Pattern.Silent
import SchemaText.Proofs.Sql.Grammar
/-! Tables as they are written out: a clause a line, names between marks where they need them, types
of several words. -/

namespace SchemaText.Sql.Written

open Sql.Core (Word enclosed)
open Pattern (spells)
open Text (sameLetter)

/-- A name, which may stand between two marks. -/
structure Name where
  word : Word
  mark : Option Char
  mark_eq : ∀ c ∈ mark, c = '"' ∨ c = '`'

structure Id where
  schema : Option Name
  name : Name

def isUsual (word : List Char) : Bool :=
  !spells "CREATE" word && !spells "ALTER" word

def isQuiet (c : Char) : Bool :=
  !sameLetter 'K' c && !sameLetter 'L' c && !sameLetter 'F' c

def isArgument (c : Char) : Bool :=
  c.isDigit || [' ', ',', '+', '-'].contains c

/-- A type of one word or more, perhaps with numbers in parentheses. -/
structure TypeText where
  head : Word
  more : List Word
  arguments : Option (List Char)
  usual : ∀ word ∈ head :: more, isUsual word.chars
  quiet : ∀ word ∈ more, word.chars.all isQuiet
  numbers : ∀ text ∈ arguments, text.all isArgument ∧ ¬ ['-', '-'] <:+: text

def columnKeywords : List String :=
  ["CREATE", "ALTER", "CONSTRAINT", "PRIMARY", "FOREIGN", "UNIQUE", "INDEX", "KEY"]

structure Column where
  name : Name
  type : TypeText
  notNull : Bool
  counts : Bool
  named : columnKeywords.all fun letters => !spells letters name.word.chars

/-- A foreign key of one column. -/
structure Reference where
  column : Name
  target : Id
  targetColumn : Name

inductive TableClause where
  | column (column : Column)
  | primaryKey (names : List Name)
  | unique (name : Name)
  | reference (reference : Reference)

def Name.text (n : Name) : String :=
  n.word.text

def Id.plain (id : Id) : Core.Id :=
  ⟨id.schema.map Name.word, id.name.word⟩

def Id.text (id : Id) : String :=
  id.plain.text

/-- The clauses of a table come in this order; it has a primary key if there are names for it. -/
structure Table where
  id : Id
  columns : List Column
  keys : List Name
  uniques : List Name
  references : List Reference
  columns_ne : columns ≠ []
  nodup : (columns.map fun column => column.name.text).Nodup
  keys_mem : ∀ key ∈ keys, key.text ∈ columns.map fun column => column.name.text

section Text

def Name.chars (n : Name) : List Char :=
  match n.mark with
  | none => n.word.chars
  | some c => c :: (n.word.chars ++ [c])

def Id.chars (id : Id) : List Char :=
  match id.schema with
  | none => id.name.chars
  | some schema => schema.chars ++ '.' :: id.name.chars

def TypeText.moreText (type : TypeText) : List Char :=
  type.more.flatMap fun word => ' ' :: word.chars

def TypeText.argumentsText (type : TypeText) : List Char :=
  type.arguments.elim [] enclosed

def TypeText.chars (type : TypeText) : List Char :=
  type.head.chars ++ (type.moreText ++ type.argumentsText)

def Column.flags (column : Column) : List Char :=
  (if column.notNull then " NOT NULL".toList else []) ++
    if column.counts then " AUTO_INCREMENT".toList else []

def Column.chars (column : Column) : List Char :=
  column.name.chars ++ ' ' :: (column.type.chars ++ column.flags)

def namesText (names : List Name) : List Char :=
  ", ".toList.intercalate (names.map Name.chars)

def Reference.chars (r : Reference) : List Char :=
  "FOREIGN KEY".toList ++ (enclosed r.column.chars ++ (" REFERENCES ".toList ++
    (r.target.chars ++ ' ' :: enclosed r.targetColumn.chars)))

def TableClause.chars : TableClause → List Char
  | .column definition => definition.chars
  | .primaryKey names => "PRIMARY KEY ".toList ++ enclosed (namesText names)
  | .unique name => "UNIQUE ".toList ++ enclosed name.chars
  | .reference r => r.chars

def Table.clauses (table : Table) : List TableClause :=
  table.columns.map .column ++
    ((if table.keys = [] then [] else [.primaryKey table.keys]) ++
      (table.uniques.map .unique ++ table.references.map .reference))

def bodyText (clauses : List TableClause) : List Char :=
  ", ".toList.intercalate (clauses.map fun clause => '\n' :: '\t' :: clause.chars) ++ ['\n']

def Table.stem (table : Table) : List Char :=
  "CREATE TABLE ".toList ++ (table.id.chars ++ ' ' :: enclosed (bodyText table.clauses))

def Table.chars (table : Table) : List Char :=
  table.stem ++ [';']

def restText : List Table → List Char
  | [] => ['\n']
  | table :: tables => '\n' :: '\n' :: (table.chars ++ restText tables)

/-- Definitions with blank lines between them. -/
def scriptText : List Table → List Char
  | [] => []
  | table :: tables => table.chars ++ restText tables

end Text

section Meaning

def TypeText.taken (type : TypeText) : List Char :=
  type.head.chars ++ if type.more = [] then type.argumentsText else []

def TypeText.left (type : TypeText) : List Char :=
  if type.more = [] then [] else type.moreText ++ type.argumentsText

/-- What a column reads as its options. -/
def Column.tail (column : Column) : List Char :=
  (column.type.left ++ column.flags).drop 1

/-- The column, where `keys` are the names of the primary key. -/
def Column.column (keys : List String) (column : Column) : SchemaText.Column where
  name := column.name.text
  type := String.ofList (Text.lower column.type.taken)
  primaryKey := keys.contains column.name.text
  notNull := column.notNull
  unique := (ColumnClause.unique.search column.tail).isSome
  autoIncrement :=
    (ColumnClause.autoIncrement.search column.tail).isSome ||
      ColumnClause.serialTypes.contains
        (String.ofList ((Text.lower column.type.taken).takeWhile (· ≠ '(')))
  default := (ColumnClause.defaultOf column.tail).map String.ofList
  note := ((ColumnClause.comment.search column.tail).map fun m => m.text "note").map String.ofList

def Reference.relationship (table : String) (r : Reference) : Relationship where
  fromTable := table
  fromColumn := r.column.text
  toTable := r.target.text
  toColumn := r.targetColumn.text
  cardinality := .manyToOne

def Table.relationships (table : Table) : List Relationship :=
  table.references.map (Reference.relationship table.id.text)

def Table.table (table : Table) : SchemaText.Table where
  id := table.id.text
  name := table.id.name.text
  schema := table.id.schema.map Name.text
  columns := table.columns.map (Column.column (table.keys.map Name.text))
  indexes := table.uniques.map fun name => { columns := [name.text], unique := true }

end Meaning

theorem TypeText.taken_append_left (type : TypeText) : type.taken ++ type.left = type.chars := by
  unfold taken left chars
  split
  · next h => simp [moreText, h]
  · rw [List.append_nil]

end SchemaText.Sql.Written
