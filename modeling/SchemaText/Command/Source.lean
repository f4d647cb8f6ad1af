import SchemaText.Pattern.Search
import SchemaText.Text.Split
import SchemaText.Text.Utf8
import SchemaText.Command.FileTree
/-! The texts that a command reads, and the language each is in. -/

namespace SchemaText.Command

inductive Language where
  | dsl
  | sql
  deriving Repr, DecidableEq

def Language.name : Language → String
  | dsl => "dsl"
  | sql => "sql"

def tablePattern : Pattern :=
  .wordEdge ++ .phrase ["CREATE", "TABLE"] ++ .wordEdge

/-- The suffix of its path tells the language of a text, and else its content. -/
def Language.detect (path : Path) (text : List Char) : Language :=
  let suffix := path.loweredSuffix
  if suffix = ".sql" ∨ suffix = ".ddl" then sql
  else if suffix = ".dbml" ∨ suffix = ".txt" then dsl
  else if (tablePattern.search text).isSome then sql else dsl

inductive SourceFault where
  | fileMissing (path : Path)
  | sourceMissing (path : Path)
  | isDirectory (path : Path)
  | unreadable (path : Path) (reason : String)
  | notText (path : Path) (fault : Text.Utf8.Fault)
  | noSources
  deriving Repr, DecidableEq

def SourceFault.message : SourceFault → String
  | fileMissing path => "Source file does not exist: " ++ path.text
  | sourceMissing path => "Source does not exist: " ++ path.text
  | isDirectory path =>
    "Cannot read source file: " ++ path.text ++
      " ([Errno 21] Is a directory: " ++ path.quoted ++ ")"
  | unreadable path reason => "Cannot read source file: " ++ path.text ++ " (" ++ reason ++ ")"
  | notText path fault => "Cannot read source file: " ++ path.text ++ " (" ++ fault.message ++ ")"
  | noSources => "No SQL files found"

def readSource (files : Files) (path : Path) : Except SourceFault (List Char) :=
  match files path with
  | some (.file content) =>
    match Text.Utf8.decode content with
    | .ok text => .ok (Text.foldLineEnds text)
    | .error fault => .error (.notText path fault)
  | some (.unreadable reason) => .error (.unreadable path reason)
  | some (.directory _) => .error (.isDirectory path)
  | none => .error (.fileMissing path)

def readFile (files : Files) (path : Path) : Except SourceFault (List Char) :=
  match files path with
  | some (.file _) | some (.unreadable _) => readSource files path
  | some (.directory _) | none => .error (.fileMissing path)

def isSqlName (name : String) : Bool :=
  ".sql".toList.isSuffixOf name.toList

/-- The files that a path stands for: a directory stands for its SQL files in the order of their
names. -/
def expand (files : Files) (path : Path) : Except SourceFault (List Path) :=
  match files path with
  | some (.directory names) =>
    .ok (((names.filter isSqlName).mergeSort fun a b => a ≤ b).map path.child)
  | some (.file _) | some (.unreadable _) => .ok [path]
  | none => .error (.sourceMissing path)

def collect (files : Files) (paths : List Path) : Except SourceFault (List Path) := do
  return (← paths.mapM (expand files)).flatten

end SchemaText.Command
