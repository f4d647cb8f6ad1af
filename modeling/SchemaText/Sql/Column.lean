import SchemaText.Text.Lowercase
import SchemaText.Pattern.Search
import SchemaText.Sql.Clause
import SchemaText.Sql.ForeignKey
import SchemaText.Sql.Token
/-! Column clauses: a name, a type, and a tail in which each option is looked for by itself. -/

namespace SchemaText.Sql

open Pattern

namespace ColumnClause

def definition : Pattern :=
  spaced [textStart ++ group "name" Identifier.name ++ blanks ++
      group "type" (oneOrMore Text.isWord ++
        optional (char '(' ++ most (· ≠ ')') ++ char ')')),
    group "tail" (most fun _ => true) ++ textEnd]

def primaryKey : Pattern :=
  phrase ["PRIMARY", "KEY"]

def notNull : Pattern :=
  phrase ["NOT", "NULL"]

def unique : Pattern :=
  word "UNIQUE" ++ wordEdge

def autoIncrement : Pattern :=
  word "AUTO" ++ optional (char '_') ++ word "INCREMENT" <|>
    word "GENERATED" ++ blanks ++ (word "ALWAYS" <|> phrase ["BY", "DEFAULT"]) ++ blanks ++
      phrase ["AS", "IDENTITY"]

def default : Pattern :=
  wordEdge ++ word "DEFAULT" ++ blanks ++
    (Literal.pattern <|> group "token" (oneOrMore fun c => c ≠ ',' && !Text.isBlank c))

def commentMark (c : Char) : Bool :=
  c == '\'' || c == '"'

def comment : Pattern :=
  wordEdge ++ word "COMMENT" ++ blanks ++ one commentMark ++
    group "note" (oneOrMore fun c => !commentMark c) ++ one commentMark

def reference : Pattern :=
  wordEdge ++ referencePattern

def serialTypes : List String :=
  ["serial", "smallserial", "bigserial", "serial2", "serial4", "serial8"]

def defaultOf (tail : List Char) : Option (List Char) :=
  (default.search tail).map fun m =>
    match m.text? "1" with
    | some literal => Literal.unescape literal
    | none => Literal.unquote (m.text "token")

def columnOf (m : Match) : Column :=
  let type := Text.lower (m.text "type")
  let tail := m.text "tail"
  { name := String.ofList (Identifier.clean (m.text "name"))
    type := String.ofList type
    primaryKey := (primaryKey.search tail).isSome
    notNull := (notNull.search tail).isSome
    unique := (unique.search tail).isSome
    autoIncrement :=
      (autoIncrement.search tail).isSome ||
        serialTypes.contains (String.ofList (type.takeWhile (· ≠ '(')))
    default := (defaultOf tail).map String.ofList
    note := ((comment.search tail).map fun note => note.text "note").map String.ofList }

def referencesOf (table : String) (offset : Nat) (m : Match) :
    List Relationship × List Diagnostic :=
  match reference.search (m.text "tail") with
  | some r => foreignKeys table (m.text "name") (r.text "target") (r.text "target_columns") offset
  | none => ([], [])

end ColumnClause

structure ColumnReading where
  column : Option Column
  relationships : List Relationship
  diagnostics : List Diagnostic
  deriving Repr, DecidableEq

def readColumn (table : String) (clause : Clause) : ColumnReading :=
  match ColumnClause.definition.matchStart clause.text with
  | none => ⟨none, [], [Fault.columnUnreadable.diagnostic clause.offset]⟩
  | some m =>
    let references := ColumnClause.referencesOf table clause.offset m
    ⟨some (ColumnClause.columnOf m), references.1, references.2⟩

end SchemaText.Sql
