import SchemaText.Text.Split
import SchemaText.Pattern.Search
import SchemaText.Sql.ForeignKey
/-! The statements that define schema elements, and reports of all others. -/

namespace SchemaText.Sql

open Pattern

namespace Statement

def ifNotExists : Pattern :=
  optional (phrase ["IF", "NOT", "EXISTS"] ++ blanks)

def createTable : Pattern :=
  spaced [wordEdge ++ word "CREATE" ++ blanks ++
      optional (optional (word "GLOBAL" ++ blanks <|> word "LOCAL" ++ blanks) ++
        word "TEMP" ++ optional (word "ORARY") ++ blanks) ++
      word "TABLE" ++ blanks ++ ifNotExists,
    group "table" Identifier.qualifiedName,
    char '(' ++ group "body" (fewest fun _ => true) ++ char ')',
    group "options" (most fun c => c ≠ ';' && c ≠ '(' && c ≠ ')') ++ char ';']

def ending : Pattern :=
  most (· ≠ ';') ++ char ';'

def addForeignKey : Pattern :=
  spaced [wordEdge ++ phrase ["ALTER", "TABLE"] ++ blanks ++ optional (word "ONLY" ++ blanks) ++
      group "table" Identifier.qualifiedName ++ blanks ++ word "ADD" ++ blanks,
    optional (word "CONSTRAINT" ++ blanks ++ Identifier.constraintName ++ blanks) ++
      phrase ["FOREIGN", "KEY"],
    Identifier.parenthesised "columns", referencePattern, ending]

def createIndex : Pattern :=
  spaced [wordEdge ++ word "CREATE" ++ blanks ++
      optional (group "unique" (word "UNIQUE" ++ blanks)) ++ word "INDEX" ++ blanks ++
      optional (word "CONCURRENTLY" ++ blanks) ++ ifNotExists,
    optional (group "name" Identifier.qualifiedName ++ blanks) ++ word "ON" ++ blanks ++
      optional (word "ONLY" ++ blanks) ++ group "table" Identifier.qualifiedName,
    optional (word "USING" ++ blanks ++ oneOrMore Text.isWord),
    Identifier.parenthesised "columns", ending]

def enumValues : Pattern :=
  repeated (one (fun c => c ≠ '\'' && c ≠ ')') <|>
    char '\'' ++ repeated (one (· ≠ '\'') <|> char '\'' ++ char '\'') ++ char '\'')

def createEnum : Pattern :=
  spaced [wordEdge ++ phrase ["CREATE", "TYPE"] ++ blanks ++
      group "name" Identifier.qualifiedName ++ blanks ++ phrase ["AS", "ENUM"],
    char '(' ++ group "values" enumValues ++ char ')', char ';']

end Statement

def isCovered (covered : List (Nat × Nat)) (offset : Nat) : Bool :=
  covered.any fun span => span.1 ≤ offset && offset < span.2

/-- The report of a stretch between semicolons whose first character is in no recognised statement.
It quotes the first three words. -/
def reportStretch (covered : List (Nat × Nat)) (stretch : Nat × List Char) : List Diagnostic :=
  let start := stretch.1 + (stretch.2.length - (Text.trimStart stretch.2).length)
  if Text.trim stretch.2 = [] ∨ isCovered covered start then []
  else
    let summary := [' '].intercalate ((Text.words stretch.2).take 3)
    [(Fault.statementUnrecognised (String.ofList summary)).diagnostic start]

def reportUnrecognised (covered : List (Nat × Nat)) (text : List Char) : List Diagnostic :=
  (Text.located 0 (Text.split (· == ';') text)).flatMap (reportStretch covered)

end SchemaText.Sql
