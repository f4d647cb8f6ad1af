import SchemaText.Reading
import SchemaText.Schema
import SchemaText.Sql.Token
/-! What can be wrong with an SQL text, and foreign keys, read as relationships. -/

namespace SchemaText.Sql

/-- The faults that reading reports before it goes on. -/
inductive Fault where
  | columnUnreadable
  | keyListsUnpaired
  | keyColumnUnknown (name : String)
  | constraintUnsupported
  | tableWithoutColumns
  | tableReplaced (id : String)
  | indexOnUnknownTable (id : String)
  | statementUnrecognised (summary : String)
  deriving Repr, DecidableEq

namespace Fault

def construct : Fault → Construct
  | columnUnreadable => .column
  | keyListsUnpaired | keyColumnUnknown _ | constraintUnsupported => .constraint
  | tableWithoutColumns | tableReplaced _ => .table
  | indexOnUnknownTable _ => .index
  | statementUnrecognised _ => .statement

def message : Fault → String
  | columnUnreadable => "unparsed column definition"
  | keyListsUnpaired => "foreign key column lists do not pair up"
  | keyColumnUnknown name => "primary key names unknown column '" ++ name ++ "'"
  | constraintUnsupported => "unsupported table constraint"
  | tableWithoutColumns => "table without columns"
  | tableReplaced id => "duplicate table '" ++ id ++ "' replaces the earlier definition"
  | indexOnUnknownTable id => "index on unknown table '" ++ id ++ "'"
  | statementUnrecognised summary => "unrecognised statement '" ++ summary ++ "'"

def diagnostic (fault : Fault) (offset : Nat) : Diagnostic :=
  ⟨fault.construct, offset, fault.message⟩

end Fault

open Pattern

def referencePattern : Pattern :=
  spaced [word "REFERENCES" ++ blanks ++ group "target" Identifier.qualifiedName,
    Identifier.parenthesised "target_columns"]

/-- One relationship for each pair of columns; the two lists have to be equally long and must not be
empty. -/
def foreignKeys (table : String) (columns target targetColumns : List Char) (offset : Nat) :
    List Relationship × List Diagnostic :=
  let sources := Identifier.cleanList columns
  let targets := Identifier.cleanList targetColumns
  if sources = [] ∨ sources.length ≠ targets.length then
    ([], [Fault.keyListsUnpaired.diagnostic offset])
  else
    let targetTable := String.ofList (Identifier.clean target)
    (List.zipWith
      (fun source target =>
        { fromTable := table, fromColumn := String.ofList source
          toTable := targetTable, toColumn := String.ofList target
          cardinality := .manyToOne })
      sources targets, [])

end SchemaText.Sql
