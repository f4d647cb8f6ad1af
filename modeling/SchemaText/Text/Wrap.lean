import SchemaText.Text.Width
import SchemaText.Text.Split
/-! Lines of a limited width. -/

namespace SchemaText.Text

def tabWidth : Nat :=
  8

def joinTabbed (column : Nat) : List (List Char) → List Char
  | [] => []
  | [part] => part
  | part :: parts =>
    let reached := column + cells (part ++ [' '])
    let next := (reached + (tabWidth - 1)) / tabWidth * tabWidth
    part ++ ' ' :: List.replicate (next - reached) ' ' ++ joinTabbed next parts

def expandTabs (line : List Char) : List Char :=
  joinTabbed 0 (split (· == '\t') line)

def pieces : List Char → List (List Char)
  | [] => []
  | c :: cs =>
    match pieces cs with
    | [] => [[c]]
    | piece :: rest =>
      if isBlank c && !(piece.head?.any isBlank) then [c] :: piece :: rest
      else (c :: piece) :: rest

def wordPieces (line : List Char) : List (List Char) :=
  match pieces line with
  | blanks :: piece :: rest =>
    if blanks.all isBlank then (blanks ++ piece) :: rest else blanks :: piece :: rest
  | few => few

def fillLines (width : Nat) (line : List Char) (used : Nat) :
    List (List Char) → List (List Char)
  | [] => [line]
  | piece :: rest =>
    if used + cells (trimEnd piece) ≤ width then
      fillLines width (line ++ piece) (used + cells piece) rest
    else line :: fillLines width piece (cells piece) rest

def dropExcess (width : Nat) (line : List Char) : List Char :=
  let blanks := line.length - (trimEnd line).length
  line.take (line.length - min blanks (line.length - width))

def shorten (width : Nat) (line : List Char) : List Char :=
  if width < cells line then takeCells (width - 1) line ++ ['…'] else line

def wrap (width : Nat) (line : List Char) : List (List Char) :=
  let lines :=
    match wordPieces line with
    | [] => [[]]
    | piece :: rest => fillLines width piece (cells piece) rest
  lines.map fun line => shorten width (dropExcess width line)

end SchemaText.Text
