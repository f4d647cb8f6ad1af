import SchemaText.Schema
import SchemaText.Sql.Column
/-! Tables while their definition is being read, clause by clause. -/

namespace SchemaText.Sql

open Pattern

namespace Constraint

def opening : Pattern :=
  textStart ++ (word "CONSTRAINT" <|> phrase ["PRIMARY", "KEY"] <|> phrase ["FOREIGN", "KEY"] <|>
    word "UNIQUE" <|> word "INDEX" <|> word "KEY") ++ wordEdge

def named : Pattern :=
  textStart ++ word "CONSTRAINT" ++ blanks ++ group "name" Identifier.constraintName

def namePart : Pattern :=
  optional (word "CONSTRAINT" ++ blanks ++ Identifier.constraintName ++ blanks)

def primaryKey : Pattern :=
  spaced [textStart ++ namePart ++ phrase ["PRIMARY", "KEY"] ++ wordEdge,
    Identifier.parenthesised "columns"]

def foreignKey : Pattern :=
  spaced [textStart ++ namePart ++ phrase ["FOREIGN", "KEY"] ++ wordEdge,
    Identifier.parenthesised "columns", referencePattern]

def indexName : Pattern :=
  optional (blanks ++ group "name" Identifier.name)

def unique : Pattern :=
  spaced [textStart ++ namePart ++ word "UNIQUE" ++ wordEdge ++
      optional (blanks ++ (word "KEY" <|> word "INDEX") ++ wordEdge) ++ indexName,
    Identifier.parenthesised "columns"]

def index : Pattern :=
  spaced [textStart ++ (word "INDEX" <|> word "KEY") ++ wordEdge ++ indexName,
    Identifier.parenthesised "columns"]

end Constraint

/-- A table and the relationships of its clauses. -/
structure Draft where
  table : Table
  relationships : List Relationship := []
  deriving Repr, DecidableEq

namespace Draft

def ofId (id : String) : Draft :=
  let name := QualifiedName.splitFirst id
  { table := { id := id, name := name.2, schema := name.1 } }

def markKey? (name : String) : List Column → Option (List Column)
  | [] => none
  | column :: columns =>
    if column.name = name then some ({ column with primaryKey := true } :: columns)
    else (markKey? name columns).map (column :: ·)

def markKeys (offset : Nat) : List String → List Column → List Column × List Diagnostic
  | [], columns => (columns, [])
  | name :: names, columns =>
    match markKey? name columns with
    | some marked => markKeys offset names marked
    | none =>
      let rest := markKeys offset names columns
      (rest.1, (Fault.keyColumnUnknown name).diagnostic offset :: rest.2)

def withColumns (draft : Draft) (columns : List Column) : Draft :=
  { draft with table := { draft.table with columns := columns } }

def addIndex (draft : Draft) (index : Index) : Draft :=
  { draft with table := { draft.table with indexes := draft.table.indexes ++ [index] } }

def addRelationships (draft : Draft) (relationships : List Relationship) : Draft :=
  { draft with relationships := draft.relationships ++ relationships }

def addColumn (draft : Draft) (column : Column) : Draft :=
  draft.withColumns (draft.table.columns ++ [column])

def cleanName (name : List Char) : String :=
  String.ofList (Identifier.clean name)

def columnNames (m : Match) : List String :=
  (Identifier.cleanList (m.text "columns")).map String.ofList

def uniqueName? (clause : List Char) (m : Match) : Option String :=
  ((m.text? "name").or ((Constraint.named.matchStart clause).bind (·.text? "name"))).map cleanName

/-- Applies a constraint clause. A unique constraint is kept as an index. -/
def applyConstraint (draft : Draft) (clause : Clause) : Draft × List Diagnostic :=
  if let some m := Constraint.primaryKey.search clause.text then
    let marked := markKeys clause.offset (columnNames m) draft.table.columns
    (draft.withColumns marked.1, marked.2)
  else if let some m := Constraint.foreignKey.search clause.text then
    let keys := foreignKeys draft.table.id (m.text "columns") (m.text "target")
      (m.text "target_columns") clause.offset
    (draft.addRelationships keys.1, keys.2)
  else if let some m := Constraint.unique.search clause.text then
    (draft.addIndex
      { columns := columnNames m, unique := true, name := uniqueName? clause.text m }, [])
  else if let some m := Constraint.index.search clause.text then
    (draft.addIndex { columns := columnNames m, name := (m.text? "name").map cleanName }, [])
  else (draft, [Fault.constraintUnsupported.diagnostic clause.offset])

def applyColumn (draft : Draft) (clause : Clause) : Draft × List Diagnostic :=
  let reading := readColumn draft.table.id clause
  let withColumn := reading.column.elim draft draft.addColumn
  (withColumn.addRelationships reading.relationships, reading.diagnostics)

def applyClause (draft : Draft) (clause : Clause) : Draft × List Diagnostic :=
  if (Constraint.opening.matchStart clause.text).isSome then draft.applyConstraint clause
  else draft.applyColumn clause

def applyClauses : Draft → List Clause → Draft × List Diagnostic
  | draft, [] => (draft, [])
  | draft, clause :: clauses =>
    if clause.trim.text = [] then applyClauses draft clauses
    else
      let first := draft.applyClause clause.trim
      let rest := first.1.applyClauses clauses
      (rest.1, first.2 ++ rest.2)

end Draft

end SchemaText.Sql
