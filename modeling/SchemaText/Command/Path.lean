import SchemaText.Text.Lowercase
import SchemaText.Text.Quoted
import SchemaText.Text.Split
/-! Paths of files. -/

namespace SchemaText.Command

/-- The slashes that a path starts with, and its parts. -/
structure Path where
  root : String
  parts : List String
  deriving Repr, DecidableEq

namespace Path

def rootOf (cs : List Char) : String :=
  match (cs.takeWhile (· == '/')).length with
  | 0 => ""
  | 2 => "//"
  | _ => "/"

def ofText (text : String) : Path where
  root := rootOf text.toList
  parts := ((Text.split (· == '/') text.toList).filter fun part => part ≠ [] ∧ part ≠ ['.']).map
    String.ofList

def text (path : Path) : String :=
  if path.root = "" ∧ path.parts = [] then "."
  else path.root ++ "/".intercalate path.parts

def child (path : Path) (name : String) : Path :=
  { path with parts := path.parts ++ [name] }

def name (path : Path) : String :=
  path.parts.getLast?.getD ""

def suffix (path : Path) : String :=
  let reversed := path.name.toList.reverse
  let ending := reversed.takeWhile (· ≠ '.')
  if ending = [] ∨ reversed.length ≤ ending.length + 1 then ""
  else String.ofList ('.' :: ending.reverse)

def loweredSuffix (path : Path) : String :=
  String.ofList (Text.lower path.suffix.toList)

def quoted (path : Path) : String :=
  String.ofList (Text.quoted path.text.toList)

end Path

end SchemaText.Command
