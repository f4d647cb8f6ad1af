import SchemaText.Pattern.Basic
import SchemaText.Pattern.Search
import SchemaText.Text.Split
/-! Names in SQL, how they are written and the plain names they stand for; and texts between single
quotes, in which a quote is written twice. -/

namespace SchemaText.Sql

open Pattern

namespace Identifier

def enclosed (opening closing : Char) : Pattern :=
  char opening ++ oneOrMore (· ≠ closing) ++ char closing

def quoted : Pattern :=
  enclosed '`' '`' <|> enclosed '"' '"' <|> enclosed '[' ']'

def name : Pattern :=
  quoted <|> oneOrMore Text.isWord

def qualifiedName : Pattern :=
  name ++ repeated (gap ++ char '.' ++ gap ++ name)

def constraintName : Pattern :=
  quoted <|> oneOrMore fun c => Text.isWord c || c == '-'

def parenthesised (groupName : String) : Pattern :=
  char '(' ++ group groupName (most fun c => c ≠ '(' && c ≠ ')') ++ char ')'

def isEnclosing (c : Char) : Bool :=
  c == '`' || c == '"' || c == '[' || c == ']'

def clean (written : List Char) : List Char :=
  ['.'].intercalate
    ((Text.split (· == '.') (written.filter fun c => !isEnclosing c)).map Text.trim)

def cleanList (written : List Char) : List (List Char) :=
  ((Text.split (· == ',') written).filter fun part => Text.trim part ≠ []).map clean

end Identifier

end SchemaText.Sql

namespace SchemaText.Sql.Literal

open Pattern

def content : Pattern :=
  repeated (one (· ≠ '\'') <|> char '\'' ++ char '\'')

def pattern : Pattern :=
  char '\'' ++ group "1" content ++ char '\''

def unescape : List Char → List Char
  | [] => []
  | '\'' :: '\'' :: rest => '\'' :: unescape rest
  | c :: rest => c :: unescape rest

def findAll (text : List Char) : List (List Char) :=
  (pattern.findAll text).map fun m => unescape (m.text "1")

def isMark (c : Char) : Bool :=
  c == '`' || c == '\'' || c == '"'

def dropMark : List Char → List Char
  | [] => []
  | c :: rest => if isMark c then rest else c :: rest

def dropLastMark (token : List Char) : List Char :=
  match token.reverse with
  | '\n' :: c :: rest => if isMark c then ('\n' :: rest).reverse else token
  | reversed => (dropMark reversed).reverse

def unquote (token : List Char) : List Char :=
  dropLastMark (dropMark token)

end SchemaText.Sql.Literal
