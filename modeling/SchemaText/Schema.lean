/-! Relational schemas: tables with their columns and indexes, relationships, enumerations; and
names with dots, cut at the first or at the last of them. -/

namespace SchemaText

structure Column where
  name : String
  type : String
  primaryKey : Bool := false
  notNull : Bool := false
  unique : Bool := false
  autoIncrement : Bool := false
  default : Option String := none
  note : Option String := none
  deriving Repr, DecidableEq

structure Index where
  columns : List String
  unique : Bool := false
  name : Option String := none
  deriving Repr, DecidableEq

/-- Relationships refer to a table by its `id`. -/
structure Table where
  id : String
  name : String
  schema : Option String := none
  columns : List Column := []
  indexes : List Index := []
  note : Option String := none
  color : Option String := none
  deriving Repr, DecidableEq

inductive Cardinality where
  | oneToOne
  | oneToMany
  | manyToOne
  | manyToMany
  deriving Repr, DecidableEq

/-- The endpoints are names only, and the tables they name need not exist. -/
structure Relationship where
  fromTable : String
  fromColumn : String
  toTable : String
  toColumn : String
  cardinality : Cardinality := .oneToMany
  label : Option String := none
  deriving Repr, DecidableEq

structure Enumeration where
  name : String
  values : List String := []
  deriving Repr, DecidableEq

structure Schema where
  tables : List Table := []
  relationships : List Relationship := []
  enumerations : List Enumeration := []
  deriving Repr, DecidableEq

def Table.qualifiedName (table : Table) : String :=
  match table.schema with
  | none => table.name
  | some schema => if schema.isEmpty then table.name else schema ++ "." ++ table.name

def Cardinality.symbol : Cardinality → String
  | .oneToOne => "1-1"
  | .oneToMany => "1-n"
  | .manyToOne => "n-1"
  | .manyToMany => "n-n"

def Relationship.id (r : Relationship) : String :=
  "_".intercalate [r.fromTable, r.fromColumn, r.toTable, r.toColumn]

end SchemaText

namespace SchemaText.QualifiedName

def splitFirst (name : String) : Option String × String :=
  let chars := name.toList
  match chars.dropWhile (· ≠ '.') with
  | [] => (none, name)
  | _ :: rest => (some (String.ofList (chars.takeWhile (· ≠ '.'))), String.ofList rest)

def splitLast (name : String) : Option String × String :=
  let reversed := name.toList.reverse
  match reversed.dropWhile (· ≠ '.') with
  | [] => (none, name)
  | _ :: rest =>
    (some (String.ofList rest.reverse), String.ofList (reversed.takeWhile (· ≠ '.')).reverse)

end SchemaText.QualifiedName
