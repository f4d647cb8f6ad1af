import SchemaText.Pattern.Search
import SchemaText.Text.Character
import SchemaText.Text.Lowercase
/-! Default values: expressions are written as they stand, all other texts as literals. -/

namespace SchemaText.Export

open Pattern

inductive DefaultValue where
  | literal (text : String)
  | expression (text : String)
  deriving Repr, DecidableEq

namespace DefaultValue

def notLineEnd (c : Char) : Bool :=
  c ≠ '\n'

def parenthesised : Pattern :=
  char '(' ++ most notLineEnd ++ char ')'

def expressionPattern : Pattern :=
  optional (char '-') ++ oneOrMore Text.isDigit ++
      optional (char '.' ++ oneOrMore Text.isDigit) <|>
    oneOrMore Text.isWord ++ parenthesised <|> parenthesised

def expressionWords : List String :=
  ["null", "true", "false", "current_timestamp", "current_date", "current_time", "localtimestamp"]

def ofText (text : String) : DefaultValue :=
  if (expressionPattern.matchWhole text.toList).isSome ||
      expressionWords.contains (String.ofList (Text.lower text.toList)) then
    expression text
  else literal text

end DefaultValue

end SchemaText.Export
