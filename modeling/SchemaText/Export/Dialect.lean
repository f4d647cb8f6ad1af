/-! The dialects of SQL that schemas are written in, and the reasons why a schema cannot be written.
-/

namespace SchemaText.Export

inductive Dialect where
  | postgresql
  | mysql
  | sqlite
  deriving Repr, DecidableEq

namespace Dialect

def all : List Dialect :=
  [postgresql, mysql, sqlite]

def name : Dialect → String
  | postgresql => "postgresql"
  | mysql => "mysql"
  | sqlite => "sqlite"

def ofName? (name : String) : Option Dialect :=
  all.find? (·.name == name)

def mark : Dialect → Char
  | mysql => '`'
  | postgresql | sqlite => '"'

end Dialect

inductive Fault.Kind where
  | value
  | text
  | rendering
  | definition
  | naming
  | registration
  deriving Repr, DecidableEq

/-- The faults of a schema, and those that only the library finds. -/
inductive Fault where
  | dialectUnknown (name : String)
  | numberTooLong (digits : Nat)
  | numberMalformed (written : String)
  | autoIncrementType (type table column : String)
  | library (kind : Fault.Kind) (message : String)
  deriving Repr, DecidableEq

namespace Fault

def maxDigits : Nat :=
  4300

def message : Fault → String
  | dialectUnknown name => "Unsupported SQL dialect: " ++ name
  | numberTooLong digits =>
    "Exceeds the limit (" ++ toString maxDigits ++
      " digits) for integer string conversion: value has " ++ toString digits ++
      " digits; use sys.set_int_max_str_digits() to increase the limit"
  | numberMalformed written => "invalid literal for int() with base 10: " ++ written
  | autoIncrementType type table column =>
    "Column type " ++ type ++ " on column '" ++ table ++ "." ++ column ++
      "' is not compatible with autoincrement=True"
  | library _ message => message

def kind : Fault → Kind
  | dialectUnknown _ | numberTooLong _ | numberMalformed _ => .value
  | autoIncrementType .. => .definition
  | library kind _ => kind

end Fault

end SchemaText.Export
