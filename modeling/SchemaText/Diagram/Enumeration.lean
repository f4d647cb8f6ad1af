import SchemaText.Schema
import SchemaText.Diagram.Index
/-! Enumerations: a qualified name and a block with one value a line. -/

namespace SchemaText.Diagram.Cursor

def readEnumEntry (c : Cursor) : Step (Option String) :=
  if c.isComment then ⟨none, c.skipLine, []⟩
  else
    let value := c.readName
    let next := (c.advanceTo value.2).skipEntry
    if value.1 = [] then ⟨none, next, c.report .enumValueSkipped⟩
    else ⟨some (String.ofList value.1), next, []⟩

theorem passes_readEnumEntry {c : Cursor} (h : c.rest ≠ []) :
    c.Passes c.readEnumEntry.next := by
  have k := ((reaches_readName c).advanceTo h).trans_reaches (reaches_skipEntry _)
  unfold readEnumEntry
  dsimp only
  split
  · exact passes_skipLine h
  · split <;> exact k

def readEnumEntries (c : Cursor) : Step (List String) :=
  if _ : c.skipBlank.stopsAt '}' then ⟨[], c.skipBlank, []⟩
  else
    let entry := c.skipBlank.readEnumEntry
    let entries := entry.next.readEnumEntries
    ⟨entry.value.toList ++ entries.value, entries.next, entry.diagnostics ++ entries.diagnostics⟩
termination_by c.rest.length
decreasing_by
  have h := rest_ne_nil_of_stopsAt_eq_false (Bool.eq_false_iff.2 ‹¬c.skipBlank.stopsAt '}'›)
  exact ((reaches_skipBlank c).trans_passes (passes_readEnumEntry h)).length_lt

theorem reaches_readEnumEntries (c : Cursor) : c.Reaches c.readEnumEntries.next := by
  fun_induction readEnumEntries c with
  | case1 c => exact reaches_skipBlank c
  | case2 c h entry entries ih =>
    have h := rest_ne_nil_of_stopsAt_eq_false (Bool.eq_false_iff.2 h)
    exact (reaches_skipBlank c).trans ((passes_readEnumEntry h).reaches.trans ih)

def readEnumBody (start c : Cursor) : Step (List String) :=
  if c.peek = some '{' then
    let entries := c.next.readEnumEntries
    ⟨entries.value, entries.next.eat '}', entries.diagnostics⟩
  else ⟨[], c, start.report .enumWithoutBody⟩

theorem reaches_readEnumBody (start c : Cursor) : c.Reaches (start.readEnumBody c).next := by
  unfold readEnumBody
  split
  · exact (reaches_next c).trans ((reaches_readEnumEntries _).trans (reaches_eat _ _))
  · exact Reaches.refl c

def readEnumeration (c : Cursor) : Step Enumeration :=
  let name := c.skipKeyword.skipBlank.readQualifiedName
  let body := c.readEnumBody name.2.skipBlank
  ⟨{ name := String.ofList name.1, values := body.value }, body.next, body.diagnostics⟩

theorem reaches_skipKeyword_readEnumeration (c : Cursor) :
    c.skipKeyword.Reaches c.readEnumeration.next :=
  (reaches_skipBlank c.skipKeyword).trans ((reaches_readQualifiedName _).trans
    ((reaches_skipBlank _).trans (reaches_readEnumBody c _)))

end SchemaText.Diagram.Cursor
