import SchemaText.Text.Split
/-! The body of a table definition, cut into clauses at the commas outside of parentheses and
quotes. -/

namespace SchemaText.Sql

/-- A part of a text and its offset there. -/
structure Clause where
  offset : Nat
  text : List Char
  deriving Repr, DecidableEq

namespace Clause

def isMark (c : Char) : Bool :=
  c == '\'' || c == '"' || c == '`'

/-- How deep in parentheses a place is, and the mark of the quotation it is in. -/
structure Nesting where
  depth : Nat := 0
  mark : Option Char := none
  deriving Repr, DecidableEq

def Nesting.after (nesting : Nesting) (c : Char) : Nesting :=
  match nesting.mark with
  | some mark => if c = mark then { nesting with mark := none } else nesting
  | none =>
    if isMark c then { nesting with mark := some c }
    else if c = '(' then { nesting with depth := nesting.depth + 1 }
    else if c = ')' then { nesting with depth := nesting.depth - 1 }
    else nesting

def Nesting.isTop (nesting : Nesting) : Bool :=
  nesting.depth == 0 && nesting.mark.isNone

/-- Cuts a text at its commas at top level. -/
def cut : Nesting → List Char → List (List Char)
  | _, [] => [[]]
  | nesting, c :: cs =>
    if c = ',' ∧ nesting.isTop then [] :: cut nesting cs
    else (cut (nesting.after c) cs).modifyHead (c :: ·)

def dropBlankEnd (parts : List (Nat × List Char)) : List (Nat × List Char) :=
  if (parts.getLast?.map fun part => Text.trim part.2) = some [] then parts.dropLast else parts

def ofText (text : List Char) : List Clause :=
  (dropBlankEnd (Text.located 0 (cut {} text))).map fun part => ⟨part.1, part.2⟩

def trim (clause : Clause) : Clause :=
  ⟨clause.offset + (clause.text.length - (Text.trimStart clause.text).length),
    Text.trim clause.text⟩

end Clause

end SchemaText.Sql
