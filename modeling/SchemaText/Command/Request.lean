import SchemaText.Command.Source
import SchemaText.Export.Dialect
/-! What the commands are asked for. -/

namespace SchemaText.Command

inductive Format where
  | json
  | dsl
  | sql
  deriving Repr, DecidableEq

def Format.name : Format → String
  | json => "json"
  | dsl => "dsl"
  | sql => "sql"

def Format.ofName? (name : String) : Option Format :=
  [json, dsl, sql].find? (·.name == name)

def languageOfName? (name : String) : Option (Option Language) :=
  if name = "auto" then some none else ([Language.dsl, .sql].find? (·.name == name)).map some

structure ParseRequest where
  source : Path
  language : Option Language
  format : Format
  sqlDialect : Export.Dialect
  strict : Bool
  keepCardinality : Bool
  deriving Repr, DecidableEq

inductive Request where
  | parse (request : ParseRequest)
  | convert (sources : List Path) (keepCardinality : Bool)
  | check (source : Path) (language : Option Language)
  deriving Repr, DecidableEq

def Request.paths : Request → List Path
  | parse request => [request.source]
  | convert sources _ => sources
  | check source _ => [source]

end SchemaText.Command
