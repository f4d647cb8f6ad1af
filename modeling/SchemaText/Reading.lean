import SchemaText.Schema
/-! What a reader reports of the parts of a text that it skipped, the outcome of reading, and the
strict view that refuses an incomplete one. -/

namespace SchemaText

inductive Construct where
  | table
  | column
  | attribute
  | relationship
  | enumeration
  | index
  | statement
  | constraint
  | content
  deriving Repr, DecidableEq

def Construct.word : Construct → String
  | .table => "table"
  | .column => "column"
  | .attribute => "attribute"
  | .relationship => "relationship"
  | .enumeration => "enum"
  | .index => "index"
  | .statement => "statement"
  | .constraint => "constraint"
  | .content => "content"

/-- The offset counts the characters of the text before the construct. -/
structure Diagnostic where
  construct : Construct
  offset : Nat
  message : String
  deriving Repr, DecidableEq

/-- The schema that was read and everything that was skipped. -/
structure Reading where
  schema : Schema
  diagnostics : List Diagnostic
  deriving Repr, DecidableEq

structure Rejection where
  diagnostics : List Diagnostic
  deriving Repr, DecidableEq

def Rejection.message (rejection : Rejection) : String :=
  match rejection.diagnostics with
  | [] => "Schema could not be parsed"
  | first :: _ =>
    toString rejection.diagnostics.length ++ " problem(s), first at offset " ++
      toString first.offset ++ ": " ++ first.construct.word ++ " " ++ first.message

/-- Strict reading accepts a text only if nothing was skipped. -/
def Reading.accept (strict : Bool) (reading : Reading) : Except Rejection Schema :=
  if strict && !reading.diagnostics.isEmpty then .error ⟨reading.diagnostics⟩
  else .ok reading.schema

theorem Reading.accept_lenient (reading : Reading) : reading.accept false = .ok reading.schema :=
  rfl

theorem Reading.accept_strict_eq_ok_iff {reading : Reading} {schema : Schema} :
    reading.accept true = .ok schema ↔ reading.diagnostics = [] ∧ reading.schema = schema := by
  cases h : reading.diagnostics <;> simp [Reading.accept, h]

end SchemaText
