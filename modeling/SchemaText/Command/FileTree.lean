import SchemaText.Command.Path
/-! The files and directories that a command can see. -/

namespace SchemaText.Command

/-- A file with its content, one that cannot be read for some reason, or a directory with the names
in it. -/
inductive Entry where
  | file (content : List UInt8)
  | unreadable (reason : String)
  | directory (names : List String)
  deriving Repr, DecidableEq

abbrev Files := Path → Option Entry

/-- A file or an empty directory, with the parts of the path that leads to it. -/
structure Leaf where
  parts : List String
  content : Option (List UInt8)
  deriving Repr, DecidableEq

structure FileTree where
  leaves : List Leaf := []
  deriving Repr, DecidableEq

namespace FileTree

def namesBelow (tree : FileTree) (parts : List String) : List String :=
  (tree.leaves.filterMap fun leaf =>
    if parts.isPrefixOf leaf.parts then (leaf.parts.drop parts.length).head? else none).eraseDups

def entry? (tree : FileTree) (parts : List String) : Option Entry :=
  match tree.leaves.find? (·.parts == parts) with
  | some ⟨_, some content⟩ => some (.file content)
  | some ⟨_, none⟩ => some (.directory (tree.namesBelow parts))
  | none =>
    let names := tree.namesBelow parts
    if parts.isEmpty || !names.isEmpty then some (.directory names) else none

def outside? (parts : List String) : Option Entry :=
  if parts.all (· == "..") then some (.directory []) else none

def lookUp? (tree : FileTree) : List String → List String → Option Entry
  | place, [] => tree.entry? place
  | place, part :: rest =>
    match tree.entry? place with
    | some (.directory _) =>
      if part = ".." then
        if place.isEmpty then outside? rest else tree.lookUp? place.dropLast rest
      else tree.lookUp? (place ++ [part]) rest
    | _ => none

def files (tree : FileTree) : Files := fun path =>
  if path.root = "" then tree.lookUp? [] path.parts else outside? path.parts

end FileTree

end SchemaText.Command
