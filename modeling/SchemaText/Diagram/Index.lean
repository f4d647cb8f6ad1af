import SchemaText.Schema
import SchemaText.Text.Lowercase
import SchemaText.Diagram.Lexeme
import SchemaText.Diagram.Notice
/-! Blocks of indexes: each entry names a column or a list of columns, with bracketed settings. -/

namespace SchemaText.Diagram

inductive IndexSetting where
  | unique
  | name (text : String)
  deriving Repr, DecidableEq

def IndexSetting.apply (index : Index) : IndexSetting → Index
  | unique => { index with unique := true }
  | name text => { index with name := some text }

namespace Cursor

def readIndexSettingAfter (word : List Char) (c : Cursor) : Option IndexSetting × Cursor :=
  let lowered := String.ofList (Text.lower word)
  if lowered = "unique" ∨ lowered = "pk" then (some .unique, c)
  else if lowered = "name" then
    let value := (c.skipOptional ':').readValue
    (some (.name (String.ofList value.1)), value.2)
  else (none, c.skipSetting)

theorem reaches_readIndexSettingAfter (word : List Char) (c : Cursor) :
    c.Reaches (c.readIndexSettingAfter word).2 := by
  unfold readIndexSettingAfter
  dsimp only
  split
  · exact Reaches.refl c
  · split
    · exact (reaches_skipOptional ':' c).trans (reaches_readValue _)
    · exact reaches_skipSetting c

def readIndexSetting (c : Cursor) : Option IndexSetting × Cursor :=
  let word := c.readName
  let setting :=
    if word.1 = [] then (none, c.advanceTo word.2) else word.2.readIndexSettingAfter word.1
  (setting.1, setting.2.skipBlank.eat ',')

theorem reaches_readIndexSetting (c : Cursor) : c.Reaches c.readIndexSetting.2 := by
  have h (d : Cursor) : d.Reaches (d.skipBlank.eat ',') :=
    (reaches_skipBlank d).trans (reaches_eat _ _)
  unfold readIndexSetting
  dsimp only
  split
  · exact (reaches_advanceTo (reaches_readName c)).trans (h _)
  · exact (reaches_readName c).trans ((reaches_readIndexSettingAfter _ _).trans (h _))

theorem passes_readIndexSetting {c : Cursor} (h : c.rest ≠ []) :
    c.Passes c.readIndexSetting.2 := by
  have k (d : Cursor) : d.Reaches (d.skipBlank.eat ',') :=
    (reaches_skipBlank d).trans (reaches_eat _ _)
  unfold readIndexSetting
  dsimp only
  split
  · exact ((reaches_readName c).advanceTo h).trans_reaches (k _)
  · next hn =>
    exact (passes_readName_of_ne_nil hn).trans_reaches
      ((reaches_readIndexSettingAfter _ _).trans (k _))

theorem passes_readIndexSetting_skipBlank {c : Cursor} (h : c.rest ≠ []) :
    c.Passes c.skipBlank.readIndexSetting.2 := by
  by_cases hd : c.skipBlank.rest = []
  · refine ((reaches_skipBlank c).rest_eq_or_passes.resolve_left fun k => h ?_).trans_reaches
      (reaches_readIndexSetting _)
    exact k.symm.trans hd
  · exact (reaches_skipBlank c).trans_passes (passes_readIndexSetting hd)

def readIndexSettings (c : Cursor) : List IndexSetting × Cursor :=
  if _ : c.stopsAt ']' then ([], c)
  else if c.peek = some '\n' then ([], c)
  else if c.skipBlank.peek = some ']' then ([], c.skipBlank)
  else
    let setting := c.skipBlank.readIndexSetting
    let settings := setting.2.readIndexSettings
    (setting.1.toList ++ settings.1, settings.2)
termination_by c.rest.length
decreasing_by
  have h := rest_ne_nil_of_stopsAt_eq_false (Bool.eq_false_iff.2 ‹¬c.stopsAt ']'›)
  exact (passes_readIndexSetting_skipBlank h).length_lt

theorem reaches_readIndexSettings (c : Cursor) : c.Reaches c.readIndexSettings.2 := by
  fun_induction readIndexSettings c with
  | case1 | case2 => exact Reaches.refl _
  | case3 c => exact reaches_skipBlank c
  | case4 c h _ _ setting settings ih =>
    have h := rest_ne_nil_of_stopsAt_eq_false (Bool.eq_false_iff.2 h)
    exact (passes_readIndexSetting_skipBlank h).reaches.trans ih

def readIndexTail (c : Cursor) : List IndexSetting × Cursor :=
  if c.peek = some '[' then
    let settings := c.next.readIndexSettings
    (settings.1, settings.2.eat ']')
  else ([], c)

theorem reaches_readIndexTail (c : Cursor) : c.Reaches c.readIndexTail.2 := by
  unfold readIndexTail
  split
  · exact (reaches_next c).trans ((reaches_readIndexSettings _).trans (reaches_eat _ _))
  · exact Reaches.refl c

def readIndexColumns (c : Cursor) : List (List Char) × Cursor :=
  if c.peek = some '(' then c.readNameList
  else
    let name := c.readName
    (if name.1 = [] then [] else [name.1], name.2)

theorem reaches_readIndexColumns (c : Cursor) : c.Reaches c.readIndexColumns.2 := by
  unfold readIndexColumns
  split
  · exact reaches_readNameList c
  · exact reaches_readName c

theorem passes_readIndexColumns {c : Cursor} (h : c.readIndexColumns.1 ≠ []) :
    c.Passes c.readIndexColumns.2 := by
  unfold readIndexColumns at h ⊢
  split
  · next hp =>
    obtain ⟨rest, hr⟩ := peek_eq_some_iff.1 hp
    exact (passes_next (by simp [hr])).trans_reaches (reaches_readListItems _)
  · next hp =>
    refine passes_readName_of_ne_nil fun hn => h ?_
    simp [hp, hn]

def readIndex (c : Cursor) : Step (Option Index) :=
  let columns := c.readIndexColumns
  if columns.1 = [] then
    ⟨none, (c.advanceTo columns.2).skipEntry, c.report .indexWithoutColumns⟩
  else
    let tail := columns.2.skipInline.readIndexTail
    let index : Index := { columns := columns.1.map String.ofList }
    ⟨some (tail.1.foldl IndexSetting.apply index), tail.2.skipEntry, []⟩

theorem passes_readIndex {c : Cursor} (h : c.rest ≠ []) : c.Passes c.readIndex.next := by
  unfold readIndex
  dsimp only
  split
  · exact ((reaches_readIndexColumns c).advanceTo h).trans_reaches (reaches_skipEntry _)
  · next hn =>
    exact (passes_readIndexColumns hn).trans_reaches ((reaches_skipInline _).trans
      ((reaches_readIndexTail _).trans (reaches_skipEntry _)))

def readIndexEntry (c : Cursor) : Step (Option Index) :=
  if c.isComment then ⟨none, c.skipLine, []⟩ else c.readIndex

theorem rest_ne_nil_of_isComment {c : Cursor} (h : c.isComment) : c.rest ≠ [] := by
  intro hr
  simp [isComment, hr] at h

theorem passes_skipLine {c : Cursor} (h : c.rest ≠ []) : c.Passes c.skipLine := by
  obtain ⟨ch, rest, hr⟩ := List.exists_cons_of_ne_nil h
  by_cases hn : ch = '\n'
  · refine (reaches_skipWhile _ c).trans_passes (passes_eat ?_)
    simp [skipWhile, takeWhile, peek, hr, hn]
  · exact (passes_skipWhile hr (by simp [hn])).trans_reaches (reaches_eat _ _)

theorem passes_readIndexEntry {c : Cursor} (h : c.rest ≠ []) :
    c.Passes c.readIndexEntry.next := by
  unfold readIndexEntry
  split
  · exact passes_skipLine h
  · exact passes_readIndex h

def readIndexEntries (c : Cursor) : Step (List Index) :=
  if c.atEnd then ⟨[], c, []⟩
  else if _ : c.skipBlank.stopsAt '}' then ⟨[], c.skipBlank, []⟩
  else
    let entry := c.skipBlank.readIndexEntry
    let entries := entry.next.readIndexEntries
    ⟨entry.value.toList ++ entries.value, entries.next, entry.diagnostics ++ entries.diagnostics⟩
termination_by c.rest.length
decreasing_by
  have h := rest_ne_nil_of_stopsAt_eq_false (Bool.eq_false_iff.2 ‹¬c.skipBlank.stopsAt '}'›)
  exact ((reaches_skipBlank c).trans_passes (passes_readIndexEntry h)).length_lt

theorem reaches_readIndexEntries (c : Cursor) : c.Reaches c.readIndexEntries.next := by
  fun_induction readIndexEntries c with
  | case1 => exact Reaches.refl _
  | case2 c => exact reaches_skipBlank c
  | case3 c _ h entry entries ih =>
    have h := rest_ne_nil_of_stopsAt_eq_false (Bool.eq_false_iff.2 h)
    exact (reaches_skipBlank c).trans ((passes_readIndexEntry h).reaches.trans ih)

def isIndexBlock (c : Cursor) : Bool :=
  String.ofList (Text.lower c.keyword.toList) == "indexes" &&
    c.skipKeyword.skipBlank.peek == some '{'

def readIndexBlock (c : Cursor) : Step (List Index) :=
  let entries := c.skipKeyword.skipBlank.next.readIndexEntries
  ⟨entries.value, entries.next.eat '}', entries.diagnostics⟩

theorem passes_readIndexBlock {c : Cursor} (h : c.isIndexBlock) :
    c.Passes c.readIndexBlock.next := by
  obtain ⟨rest, hr⟩ := peek_eq_some_iff.1
    (show c.skipKeyword.skipBlank.peek = some '{' by simpa using (Bool.and_eq_true_iff.1 h).2)
  exact ((reaches_skipKeyword c).trans (reaches_skipBlank _)).trans_passes
    ((passes_next (by simp [hr])).trans_reaches
      ((reaches_readIndexEntries _).trans (reaches_eat _ _)))

end Cursor

end SchemaText.Diagram
