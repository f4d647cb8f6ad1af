import SchemaText.Schema
import SchemaText.Diagram.Column
import SchemaText.Diagram.Index
/-! Tables: a qualified name and a block of columns, indexes and notes. -/

namespace SchemaText.Diagram

inductive TableEntry where
  | column (column : Column)
  | indexes (indexes : List Index)
  | note (text : String)
  deriving Repr, DecidableEq

namespace TableEntry

def column? : TableEntry → Option Column
  | column c => some c
  | _ => none

def indexList : TableEntry → List Index
  | indexes list => list
  | _ => []

def note? : TableEntry → Option String
  | note text => some text
  | _ => none

end TableEntry

def tableOfEntries (id : String) (entries : List TableEntry) : Table :=
  let name := QualifiedName.splitFirst id
  { id := id
    name := name.2
    schema := name.1
    columns := entries.filterMap TableEntry.column?
    indexes := entries.flatMap TableEntry.indexList
    note := (entries.filterMap TableEntry.note?).getLast? }

namespace Cursor

def isNote (c : Cursor) : Bool :=
  (c.keyword == "Note" || c.keyword == "note") && c.skipKeyword.skipBlank.peek == some ':'

def readNote (c : Cursor) : List Char × Cursor :=
  (c.skipKeyword.skipOptional ':').readValue

theorem passes_readNote {c : Cursor} (h : c.isNote) : c.Passes c.readNote.2 := by
  refine Passes.trans_reaches ?_
    ((reaches_skipOptional ':' c.skipKeyword).trans (reaches_readValue _))
  refine (reaches_skipKeyword c).passes_of_offset_lt ?_
  have hk : c.rest.takeWhile Char.isAlpha ≠ [] := by
    intro hn
    simp [isNote, keyword, hn] at h
  have := List.length_pos_iff.2 hk
  simp only [skipKeyword, skipWhile, takeWhile]
  omega

def readTableEntry (c : Cursor) : Step (Option TableEntry) :=
  if c.isComment then ⟨none, c.skipLine, []⟩
  else if c.isNote then
    let text := c.readNote
    ⟨some (.note (String.ofList text.1)), text.2, []⟩
  else if c.isIndexBlock then
    let block := c.readIndexBlock
    ⟨some (.indexes block.value), block.next, block.diagnostics⟩
  else
    let column := c.readColumn
    ⟨column.value.map .column, column.next, column.diagnostics⟩

theorem passes_readTableEntry {c : Cursor} (h : c.rest ≠ []) :
    c.Passes c.readTableEntry.next := by
  unfold readTableEntry
  split
  · exact passes_skipLine h
  · split
    · next hn => exact passes_readNote hn
    · split
      · next hb => exact passes_readIndexBlock hb
      · exact passes_readColumn h

def readTableEntries (c : Cursor) : Step (List TableEntry) :=
  if _ : c.skipBlank.stopsAt '}' then ⟨[], c.skipBlank, []⟩
  else
    let entry := c.skipBlank.readTableEntry
    let entries := entry.next.readTableEntries
    ⟨entry.value.toList ++ entries.value, entries.next, entry.diagnostics ++ entries.diagnostics⟩
termination_by c.rest.length
decreasing_by
  have h := rest_ne_nil_of_stopsAt_eq_false (Bool.eq_false_iff.2 ‹¬c.skipBlank.stopsAt '}'›)
  exact ((reaches_skipBlank c).trans_passes (passes_readTableEntry h)).length_lt

theorem reaches_readTableEntries (c : Cursor) : c.Reaches c.readTableEntries.next := by
  fun_induction readTableEntries c with
  | case1 c => exact reaches_skipBlank c
  | case2 c h entry entries ih =>
    have h := rest_ne_nil_of_stopsAt_eq_false (Bool.eq_false_iff.2 h)
    exact (reaches_skipBlank c).trans ((passes_readTableEntry h).reaches.trans ih)

def skipAlias (c : Cursor) : Cursor :=
  if c.keyword = "as" then c.skipKeyword.skipBlank.readName.2.skipBlank else c

theorem reaches_skipAlias (c : Cursor) : c.Reaches c.skipAlias := by
  unfold skipAlias
  split
  · exact (reaches_skipKeyword c).trans
      ((reaches_skipBlank _).trans ((reaches_readName _).trans (reaches_skipBlank _)))
  · exact Reaches.refl c

def skipTableSettings (c : Cursor) : Step Unit :=
  if c.peek = some '[' then
    ⟨(), ((c.next.skipWhile (· ≠ ']')).eat ']').skipBlank, c.report .tableSettingsIgnored⟩
  else ⟨(), c, []⟩

theorem reaches_skipTableSettings (c : Cursor) : c.Reaches c.skipTableSettings.next := by
  unfold skipTableSettings
  split
  · exact (reaches_next c).trans
      ((reaches_skipWhile _ _).trans ((reaches_eat _ _).trans (reaches_skipBlank _)))
  · exact Reaches.refl c

def readTableBody (start c : Cursor) : Step (List TableEntry) :=
  if c.peek = some '{' then
    let entries := c.next.readTableEntries
    if entries.next.peek = some '}' then
      ⟨entries.value, entries.next.next, entries.diagnostics⟩
    else ⟨entries.value, entries.next, entries.diagnostics ++ start.report .tableNotClosed⟩
  else ⟨[], c, start.report .tableWithoutBody⟩

theorem reaches_readTableBody (start c : Cursor) : c.Reaches (start.readTableBody c).next := by
  unfold readTableBody
  dsimp only
  split
  · split
    · exact (reaches_next c).trans ((reaches_readTableEntries _).trans (reaches_next _))
    · exact (reaches_next c).trans (reaches_readTableEntries _)
  · exact Reaches.refl c

/-- Reads a table from its keyword. Without a name, or with a schema only, there is no table. -/
def readTable (c : Cursor) : Step (Option Table) :=
  let id := c.skipKeyword.skipBlank.readQualifiedName
  let settings := id.2.skipBlank.skipAlias.skipTableSettings
  let body := c.readTableBody settings.next
  let table := tableOfEntries (String.ofList id.1) body.value
  let diagnostics := settings.diagnostics ++ body.diagnostics
  if table.name.isEmpty then ⟨none, body.next, diagnostics ++ c.report .tableWithoutName⟩
  else ⟨some table, body.next, diagnostics⟩

theorem reaches_skipKeyword_readTable (c : Cursor) :
    c.skipKeyword.Reaches c.readTable.next := by
  have h := (reaches_skipBlank c.skipKeyword).trans ((reaches_readQualifiedName _).trans
    ((reaches_skipBlank _).trans ((reaches_skipAlias _).trans
      ((reaches_skipTableSettings _).trans (reaches_readTableBody c _)))))
  unfold readTable
  dsimp only
  split <;> exact h

end Cursor

end SchemaText.Diagram
