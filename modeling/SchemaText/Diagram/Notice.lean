import SchemaText.Reading
import SchemaText.Diagram.Cursor
/-! What can be wrong with a text in the notation, and the result of reading a part of it. -/

namespace SchemaText.Diagram

/-- The faults that reading reports before it goes on. -/
inductive Notice where
  | unrecognisedContent
  | tableSettingsIgnored
  | tableNotClosed
  | tableWithoutBody
  | tableWithoutName
  | tableIdRepeated (id : String)
  | columnIncomplete
  | notWithout (word : String)
  | inlineReference
  | unknownAttribute (name : String)
  | attributesNotClosed
  | indexWithoutColumns
  | endpointsIncomplete
  | enumWithoutBody
  | enumValueSkipped
  deriving Repr, DecidableEq

namespace Notice

def construct : Notice → Construct
  | unrecognisedContent => .content
  | tableSettingsIgnored | tableNotClosed | tableWithoutBody | tableWithoutName
  | tableIdRepeated _ => .table
  | columnIncomplete => .column
  | notWithout _ | inlineReference | unknownAttribute _ | attributesNotClosed => .attribute
  | indexWithoutColumns => .index
  | endpointsIncomplete => .relationship
  | enumWithoutBody | enumValueSkipped => .enumeration

def message : Notice → String
  | unrecognisedContent => "unrecognised content"
  | tableSettingsIgnored => "table settings ignored"
  | tableNotClosed => "table block is not closed"
  | tableWithoutBody => "table has no body"
  | tableWithoutName => "table without a name dropped"
  | tableIdRepeated id => "duplicate table id '" ++ id ++ "'"
  | columnIncomplete => "column needs a name and a type"
  | notWithout word => "'not " ++ word ++ "'"
  | inlineReference => "inline ref ignored"
  | unknownAttribute name => "unknown '" ++ name ++ "'"
  | attributesNotClosed => "attribute list is not closed"
  | indexWithoutColumns => "index without columns"
  | endpointsIncomplete => "relationship endpoints must be table.column"
  | enumWithoutBody => "enum has no body"
  | enumValueSkipped => "enum value skipped"

def diagnostic (notice : Notice) (offset : Nat) : Diagnostic :=
  ⟨notice.construct, offset, notice.message⟩

end Notice

/-- What was found, where reading stopped, and what was reported on the way. -/
structure Step (α : Type) where
  value : α
  next : Cursor
  diagnostics : List Diagnostic := []

def Cursor.report (c : Cursor) (notice : Notice) : List Diagnostic :=
  [notice.diagnostic c.position]

end SchemaText.Diagram
