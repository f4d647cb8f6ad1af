import SchemaText.Reading
import SchemaText.Diagram.Table
import SchemaText.Diagram.Relationship
import SchemaText.Diagram.Enumeration
/-! Whole texts in the notation, cut into segments from which the schema is put together. -/

namespace SchemaText.Diagram

inductive Definition where
  | table
  | relationship
  | enumeration
  deriving Repr, DecidableEq

def Definition.ofKeyword? (word : String) : Option Definition :=
  if word = "Table" ∨ word = "table" then some .table
  else if word = "Ref" ∨ word = "ref" then some .relationship
  else if word = "Enum" ∨ word = "enum" then some .enumeration
  else none

/-- A stretch of a text: a comment, a run of characters outside of all definitions, or what the
definition at an offset was read as. -/
inductive Segment where
  | comment
  | stray (offset : Nat)
  | table (offset : Nat) (table : Option Table) (diagnostics : List Diagnostic)
  | relationship (relationship : Option Relationship) (diagnostics : List Diagnostic)
  | enumeration (enumeration : Enumeration) (diagnostics : List Diagnostic)
  deriving Repr, DecidableEq

namespace Segment

def table? : Segment → Option Table
  | table _ t _ => t
  | _ => none

def relationship? : Segment → Option Relationship
  | relationship r _ => r
  | _ => none

def enumeration? : Segment → Option Enumeration
  | enumeration e _ => some e
  | _ => none

def diagnostics (ids : List String) : Segment → List Diagnostic
  | comment => []
  | stray offset => [Notice.unrecognisedContent.diagnostic offset]
  | table offset (some t) list =>
    if t.id ∈ ids then list ++ [(Notice.tableIdRepeated t.id).diagnostic offset] else list
  | table _ none list => list
  | relationship _ list => list
  | enumeration _ list => list

def allDiagnostics (ids : List String) : List Segment → List Diagnostic
  | [] => []
  | segment :: segments =>
    segment.diagnostics ids ++
      allDiagnostics (ids ++ (segment.table?.map Table.id).toList) segments

end Segment

def readingOfSegments (segments : List Segment) : Reading where
  schema :=
    { tables := segments.filterMap Segment.table?
      relationships := segments.filterMap Segment.relationship?
      enumerations := segments.filterMap Segment.enumeration? }
  diagnostics := Segment.allDiagnostics [] segments

namespace Cursor

def definition? (c : Cursor) : Option Definition :=
  Definition.ofKeyword? c.keyword

def readDefinition (c : Cursor) : Definition → Segment × Cursor
  | .table =>
    let step := c.readTable
    (.table c.offset step.value step.diagnostics, step.next)
  | .relationship =>
    let step := c.readRelationship
    (.relationship step.value step.diagnostics, step.next)
  | .enumeration =>
    let step := c.readEnumeration
    (.enumeration step.value step.diagnostics, step.next)

theorem passes_skipKeyword {c : Cursor} (h : c.keyword ≠ "") : c.Passes c.skipKeyword := by
  refine (reaches_skipKeyword c).passes_of_offset_lt ?_
  have hk : c.rest.takeWhile Char.isAlpha ≠ [] := by
    intro hn
    simp [keyword, hn] at h
  have := List.length_pos_iff.2 hk
  simp only [skipKeyword, skipWhile, takeWhile]
  omega

theorem passes_readDefinition {c : Cursor} {definition : Definition}
    (h : c.definition? = some definition) : c.Passes (c.readDefinition definition).2 := by
  have hk : c.Passes c.skipKeyword := passes_skipKeyword fun k => by
    simp [definition?, k, Definition.ofKeyword?] at h
  cases definition with
  | table => simpa only [readDefinition] using hk.trans_reaches (reaches_skipKeyword_readTable c)
  | relationship =>
    simpa only [readDefinition] using hk.trans_reaches (reaches_skipKeyword_readRelationship c)
  | enumeration =>
    simpa only [readDefinition] using hk.trans_reaches (reaches_skipKeyword_readEnumeration c)

/-- The segments of the text from here on; `inStray` tells whether this place continues a run of
characters outside of all definitions. Blanks do not end such a run. -/
def segments (inStray : Bool) (c : Cursor) : List Segment :=
  if _ : c.skipBlank.atEnd then []
  else
    match _ : c.skipBlank.definition? with
    | some definition =>
      let first := c.skipBlank.readDefinition definition
      first.1 :: first.2.segments false
    | none =>
      if c.skipBlank.isComment then .comment :: c.skipBlank.skipLine.segments false
      else
        let rest := c.skipBlank.next.segments true
        if inStray then rest else .stray c.skipBlank.offset :: rest
termination_by c.rest.length
decreasing_by
  all_goals
    have hb := reaches_skipBlank c
    have hr : c.skipBlank.rest ≠ [] := fun k => ‹¬c.skipBlank.atEnd› (atEnd_iff.2 k)
  · exact (hb.trans_passes (passes_readDefinition ‹_›)).length_lt
  · exact (hb.trans_passes (passes_skipLine hr)).length_lt
  · exact (hb.trans_passes (passes_next hr)).length_lt

end Cursor

/-- Reads a text in the notation. Whatever is not understood is skipped and reported. -/
def read (source : String) : Reading :=
  readingOfSegments ((Cursor.ofPosition source.toList 0).segments false)

end SchemaText.Diagram
