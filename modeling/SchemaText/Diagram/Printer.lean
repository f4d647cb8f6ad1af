import SchemaText.Schema
import SchemaText.Text.Split
import SchemaText.Diagram.Lexeme
/-! Schemas written in the notation. -/

namespace SchemaText.Diagram

def marks : List Char :=
  ['"', '\'', '`']

/-- The first mark that does not occur in the text. A text that holds all of them has none, and
does not read back. -/
def markFor (cs : List Char) : Char :=
  (marks.find? fun mark => !cs.contains mark).getD '"'

def quoteChars (cs : List Char) : List Char :=
  markFor cs :: cs ++ [markFor cs]

def quote (text : String) : String :=
  String.ofList (quoteChars text.toList)

def isPlain (c : Char) : Bool :=
  c.isAlphanum || c == '_'

def isPlainName (cs : List Char) : Bool :=
  !cs.isEmpty && cs.all isPlain

def renderNameChars (cs : List Char) : List Char :=
  if isPlainName cs then cs else quoteChars cs

def renderName (name : String) : String :=
  String.ofList (renderNameChars name.toList)

def renderQualifiedNameChars (cs : List Char) : List Char :=
  ['.'].intercalate ((Text.split (· == '.') cs).map renderNameChars)

def renderQualifiedName (name : String) : String :=
  String.ofList (renderQualifiedNameChars name.toList)

def isPlainType (cs : List Char) : Bool :=
  !(cs.takeWhile isBare).isEmpty &&
    match cs.dropWhile isBare with
    | [] => true
    | c :: arguments =>
      c == '(' && arguments.getLast? == some ')' &&
        arguments.dropLast.all fun a => a ≠ '(' && a ≠ ')' && a ≠ '\n' && !isMark a

def renderType (type : String) : String :=
  if isPlainType type.toList then type else quote type

def needsQuotes (cs : List Char) : Bool :=
  cs.isEmpty || Text.trim cs ≠ cs || cs.head?.any isMark ||
    cs.any fun c => c == ',' || c == ']' || c == '\n' || c == '}'

def renderValue (value : String) : String :=
  if needsQuotes value.toList then quote value else value

def renderAttributes (column : Column) : List String :=
  (if column.primaryKey then ["pk"] else []) ++
  (if column.notNull then ["not null"] else []) ++
  (if column.unique then ["unique"] else []) ++
  (if column.autoIncrement then ["increment"] else []) ++
  (column.default.map fun value => "default: " ++ renderValue value).toList ++
  (column.note.map fun text => "note: " ++ quote text).toList

def renderSettings (settings : List String) : String :=
  if settings.isEmpty then "" else " [" ++ ", ".intercalate settings ++ "]"

def renderColumn (column : Column) : String :=
  "  " ++ renderName column.name ++ " " ++ renderType column.type ++
    renderSettings (renderAttributes column)

def renderIndexColumns (columns : List String) : String :=
  match columns with
  | [column] => renderName column
  | columns => "(" ++ ", ".intercalate (columns.map renderName) ++ ")"

def renderIndex (index : Index) : String :=
  "    " ++ renderIndexColumns index.columns ++
    renderSettings
      ((if index.unique then ["unique"] else []) ++
        (index.name.map fun name => "name: " ++ quote name).toList)

def joinLines (lines : List String) : String :=
  "\n".intercalate lines

def renderTable (table : Table) : String :=
  joinLines
    (["Table " ++ renderQualifiedName table.qualifiedName ++ " \x7b"] ++
      table.columns.map renderColumn ++
      (if table.indexes.isEmpty then []
        else ["", "  indexes \x7b"] ++ table.indexes.map renderIndex ++ ["  \x7d"]) ++
      (match table.note with
        | none => []
        | some text => ["", "  Note: " ++ quote text]) ++
      ["\x7d"])

def renderEnumeration (enumeration : Enumeration) : String :=
  joinLines
    (["Enum " ++ renderQualifiedName enumeration.name ++ " \x7b"] ++
      enumeration.values.map (fun value => "  " ++ renderName value) ++ ["\x7d"])

def operator : Cardinality → String
  | .oneToMany => ">"
  | .manyToOne => "<"
  | .manyToMany => "<>"
  | .oneToOne => "--"

def renderRelationship (keepCardinality : Bool) (r : Relationship) : String :=
  "Ref: " ++ renderQualifiedName (r.fromTable ++ "." ++ r.fromColumn) ++ " " ++
    operator (if keepCardinality then r.cardinality else .oneToMany) ++ " " ++
    renderQualifiedName (r.toTable ++ "." ++ r.toColumn)

def renderBlocks (keepCardinality : Bool) (schema : Schema) : List String :=
  schema.tables.map renderTable ++ schema.enumerations.map renderEnumeration ++
    (if schema.relationships.isEmpty then []
      else [joinLines (schema.relationships.map (renderRelationship keepCardinality))])

/-- Writes a schema in the notation, with an empty line between blocks. -/
def render (keepCardinality : Bool) (schema : Schema) : String :=
  let blocks := renderBlocks keepCardinality schema
  if blocks.isEmpty then "" else "\n\n".intercalate blocks ++ "\n"

end SchemaText.Diagram
