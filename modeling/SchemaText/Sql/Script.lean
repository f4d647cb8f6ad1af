import SchemaText.Reading
import SchemaText.Sql.Comment
import SchemaText.Sql.Draft
import SchemaText.Sql.Statement
/-! Whole SQL texts: the statements of each kind are found independently of the others. -/

namespace SchemaText.Sql

open Pattern

def putTable (table : Table) : List Table → List Table
  | [] => [table]
  | t :: tables => if t.id = table.id then table :: tables else t :: putTable table tables

def addIndex? (id : String) (index : Index) : List Table → Option (List Table)
  | [] => none
  | t :: tables =>
    if t.id = id then some ({ t with indexes := t.indexes ++ [index] } :: tables)
    else (addIndex? id index tables).map (t :: ·)

/-- What the statements of a text have given so far. -/
structure Progress where
  tables : List Table := []
  relationships : List Relationship := []
  diagnostics : List Diagnostic := []
  deriving Repr, DecidableEq

namespace Progress

def report (progress : Progress) (diagnostics : List Diagnostic) : Progress :=
  { progress with diagnostics := progress.diagnostics ++ diagnostics }

def draftOf (m : Match) : Draft × List Diagnostic :=
  let start := ((m.capture? "body").map Capture.offset).getD 0
  let clauses := (Clause.ofText (m.text "body")).map fun clause =>
    { clause with offset := start + clause.offset }
  (Draft.ofId (Draft.cleanName (m.text "table"))).applyClauses clauses

/-- A table needs a column; a later table of the same id takes the place of the earlier one. -/
def addTable (progress : Progress) (m : Match) : Progress :=
  let draft := draftOf m
  let table := draft.1.table
  let progress : Progress :=
    { progress.report draft.2 with
      relationships := progress.relationships ++ draft.1.relationships }
  if table.columns.isEmpty then progress.report [Fault.tableWithoutColumns.diagnostic m.start]
  else
    let known := progress.tables.any (·.id == table.id)
    { progress with tables := putTable table progress.tables }.report
      (if known then [(Fault.tableReplaced table.id).diagnostic m.start] else [])

def addIndex (progress : Progress) (m : Match) : Progress :=
  let id := Draft.cleanName (m.text "table")
  let index : Index :=
    { columns := Draft.columnNames m
      unique := (m.text? "unique").isSome
      name := (m.text? "name").map Draft.cleanName }
  match addIndex? id index progress.tables with
  | some tables => { progress with tables := tables }
  | none => progress.report [(Fault.indexOnUnknownTable id).diagnostic m.start]

def addForeignKey (progress : Progress) (m : Match) : Progress :=
  let keys := foreignKeys (Draft.cleanName (m.text "table")) (m.text "columns") (m.text "target")
    (m.text "target_columns") m.start
  { progress.report keys.2 with relationships := progress.relationships ++ keys.1 }

end Progress

def enumerationOf (m : Match) : Enumeration where
  name := Draft.cleanName (m.text "name")
  values := (Literal.findAll (m.text "values")).map String.ofList

structure Statements where
  tables : List Match
  indexes : List Match
  foreignKeys : List Match
  enumerations : List Match

namespace Statements

def ofText (text : List Char) : Statements where
  tables := Statement.createTable.findAll text
  indexes := Statement.createIndex.findAll text
  foreignKeys := Statement.addForeignKey.findAll text
  enumerations := Statement.createEnum.findAll text

def spans (statements : Statements) : List (Nat × Nat) :=
  (statements.tables ++ statements.indexes ++ statements.foreignKeys ++
    statements.enumerations).map fun m => (m.start, m.stop)

def progress (statements : Statements) : Progress :=
  statements.foreignKeys.foldl Progress.addForeignKey
    (statements.indexes.foldl Progress.addIndex (statements.tables.foldl Progress.addTable {}))

end Statements

def sortDiagnostics (diagnostics : List Diagnostic) : List Diagnostic :=
  diagnostics.mergeSort fun a b => a.offset ≤ b.offset

def readStripped (text : List Char) : Reading :=
  let statements := Statements.ofText text
  let progress := statements.progress
  { schema :=
      { tables := progress.tables
        relationships := progress.relationships
        enumerations := statements.enumerations.map enumerationOf }
    diagnostics :=
      sortDiagnostics (progress.diagnostics ++ reportUnrecognised statements.spans text) }

/-- Reads an SQL text. Statements that define nothing of a schema are reported. -/
def read (sql : String) : Reading :=
  readStripped (Comment.strip sql.toList)

end SchemaText.Sql
