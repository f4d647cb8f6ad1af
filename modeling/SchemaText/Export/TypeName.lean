import SchemaText.Schema
import SchemaText.Pattern.Search
import SchemaText.Text.Character
import SchemaText.Text.Lowercase
import SchemaText.Text.Quoted
import SchemaText.Text.Split
import SchemaText.Export.Dialect
/-! Column types as SQL knows them, read from the text that a schema holds for them. -/

namespace SchemaText.Export

open Pattern

/-- A `raw` type is one that is not known, and is written as it stands. -/
inductive DataType where
  | integer
  | bigInteger
  | smallInteger
  | string (length : Option Nat)
  | char (length : Option Nat)
  | text
  | boolean
  | date
  | dateTime (timezone : Bool)
  | time
  | numeric (precision scale : Option Nat)
  | float
  | binary (length : Option Nat)
  | json
  | uuid
  | enumeration (schema : Option String) (name : String) (values : List String)
  | raw (definition : String)
  deriving Repr, DecidableEq

namespace DataType

def isInteger : DataType → Bool
  | integer | bigInteger | smallInteger => true
  | _ => false

end DataType

namespace TypeName

def makers : List (String × (List Nat → DataType)) :=
  [("int", fun _ => .integer), ("integer", fun _ => .integer), ("int4", fun _ => .integer),
   ("serial", fun _ => .integer), ("mediumint", fun _ => .integer),
   ("bigint", fun _ => .bigInteger), ("int8", fun _ => .bigInteger),
   ("bigserial", fun _ => .bigInteger), ("smallint", fun _ => .smallInteger),
   ("int2", fun _ => .smallInteger), ("smallserial", fun _ => .smallInteger),
   ("tinyint", fun _ => .smallInteger), ("varchar", fun args => .string args[0]?),
   ("nvarchar", fun args => .string args[0]?),
   ("character varying", fun args => .string args[0]?), ("char", fun args => .char args[0]?),
   ("character", fun args => .char args[0]?), ("text", fun _ => .text),
   ("string", fun args => .string args[0]?), ("bool", fun _ => .boolean),
   ("boolean", fun _ => .boolean), ("date", fun _ => .date), ("datetime", fun _ => .dateTime false),
   ("timestamp", fun _ => .dateTime false), ("timestamptz", fun _ => .dateTime true),
   ("time", fun _ => .time), ("decimal", fun args => .numeric args[0]? args[1]?),
   ("numeric", fun args => .numeric args[0]? args[1]?), ("float", fun _ => .float),
   ("real", fun _ => .float), ("double", fun _ => .float), ("double precision", fun _ => .float),
   ("blob", fun _ => .binary none), ("bytea", fun _ => .binary none),
   ("binary", fun args => .binary args[0]?), ("varbinary", fun args => .binary args[0]?),
   ("json", fun _ => .json), ("jsonb", fun _ => .json), ("uuid", fun _ => .uuid)]

def maker? (name : String) : Option (List Nat → DataType) :=
  makers.lookup name

def arguments : Pattern :=
  gap ++ oneOrMore Text.isDigit ++ repeated (gap ++ char ',' ++ gap ++ oneOrMore Text.isDigit) ++
    gap

def pattern : Pattern :=
  gap ++ group "name" (one (fun c => Text.isLatinLetter c || c == '_') ++
      fewest fun c => Text.isWord c || c == ' ') ++
    gap ++ optional (char '(' ++ group "args" arguments ++ char ')') ++ gap

def isSeparator (c : Char) : Bool :=
  28 ≤ c.toNat && c.toNat ≤ 31

def shownText (written : List Char) : String :=
  String.ofList ((Text.quoted written).take 200)

def readNumber (written : List Char) : Except Fault Nat :=
  let start := Text.trimStart written
  let digits := start.takeWhile Text.isDigit
  let malformed := Fault.numberMalformed (shownText written)
  if (written.takeWhile Text.isBlank).any isSeparator then .error malformed
  else if Fault.maxDigits < digits.length then .error (.numberTooLong digits.length)
  else if written.any isSeparator then .error malformed
  else .ok (Text.number digits)

def readArguments (written : List Char) : Except Fault (List Nat) :=
  ((Text.split (· == ',') written).filter (· ≠ [])).mapM readNumber

def normalise (name : List Char) : String :=
  String.ofList ([' '].intercalate (Text.words (Text.lower name)))

def readNamed (type : String) : Except Fault DataType := do
  match pattern.matchWhole type.toList with
  | none => return .raw type
  | some m =>
    let numbers ← readArguments (m.text "args")
    match maker? (normalise (m.text "name")) with
    | some make => return make numbers
    | none => return .raw type

def enumeration? (enumerations : List Enumeration) (name : String) : Option Enumeration :=
  enumerations.reverse.find? (·.name == name)

def ofEnumeration (e : Enumeration) : DataType :=
  let name := QualifiedName.splitLast e.name
  .enumeration (name.1.filter fun schema => !schema.isEmpty) name.2 e.values

/-- The type that a text stands for. Enumerations with values come before known names. -/
def read (enumerations : List Enumeration) (type : String) : Except Fault DataType :=
  match (enumeration? enumerations type).filter fun e => !e.values.isEmpty with
  | some e => .ok (ofEnumeration e)
  | none => readNamed type

end TypeName

end SchemaText.Export
