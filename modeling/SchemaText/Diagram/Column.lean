import SchemaText.Schema
import SchemaText.Text.Lowercase
import SchemaText.Diagram.Lexeme
import SchemaText.Diagram.Notice
/-! Columns: a name, a type and a bracketed list of attributes. -/

namespace SchemaText.Diagram

inductive Attribute where
  | primaryKey
  | autoIncrement
  | unique
  | notNull
  | default (value : String)
  | note (text : String)
  deriving Repr, DecidableEq

def Attribute.apply (column : Column) : Attribute → Column
  | primaryKey => { column with primaryKey := true }
  | autoIncrement => { column with autoIncrement := true }
  | unique => { column with unique := true }
  | notNull => { column with notNull := true }
  | default value => { column with default := some value }
  | note text => { column with note := some text }

inductive AttributeWord where
  | flag (meaning : Attribute)
  | not
  | default
  | note
  | reference
  | unknown
  deriving Repr, DecidableEq

def AttributeWord.ofName (name : List Char) : AttributeWord :=
  let word := String.ofList (Text.lower name)
  if word = "pk" || word = "primary" || word = "primarykey" then .flag .primaryKey
  else if word = "increment" || word = "auto_increment" then .flag .autoIncrement
  else if word = "unique" then .flag .unique
  else if word = "not" then .not
  else if word = "default" then .default
  else if word = "note" then .note
  else if word = "ref" then .reference
  else .unknown

namespace Cursor

def readAttributeAfter (start : Cursor) (name : List Char) (c : Cursor) :
    Step (Option Attribute) :=
  match AttributeWord.ofName name with
  | .flag meaning => ⟨some meaning, c, []⟩
  | .not =>
    let following := c.skipBlank.readName
    if String.ofList (Text.lower following.1) = "null" then ⟨some .notNull, following.2, []⟩
    else ⟨none, following.2, start.report (.notWithout (String.ofList following.1))⟩
  | .default =>
    let value := (c.skipOptional ':').readValue
    ⟨some (.default (String.ofList value.1)), value.2, []⟩
  | .note =>
    let value := (c.skipOptional ':').readValue
    ⟨some (.note (String.ofList value.1)), value.2, []⟩
  | .reference => ⟨none, c.skipSetting, start.report .inlineReference⟩
  | .unknown =>
    ⟨none, c.skipSetting, start.report (.unknownAttribute (String.ofList name))⟩

theorem reaches_readAttributeAfter (start : Cursor) (name : List Char) (c : Cursor) :
    c.Reaches (start.readAttributeAfter name c).next := by
  unfold readAttributeAfter
  split
  · exact Reaches.refl c
  · have h : c.Reaches c.skipBlank.readName.2 := (reaches_skipBlank c).trans (reaches_readName _)
    dsimp only
    split <;> exact h
  · exact (reaches_skipOptional ':' c).trans (reaches_readValue _)
  · exact (reaches_skipOptional ':' c).trans (reaches_readValue _)
  · exact reaches_skipSetting c
  · exact reaches_skipSetting c

def readAttribute (c : Cursor) : Step (Option Attribute) :=
  let name := c.readName
  if name.1 = [] then ⟨none, c.advanceTo name.2, []⟩
  else
    let step := c.readAttributeAfter name.1 name.2
    ⟨step.value, step.next.skipBlank.eat ',', step.diagnostics⟩

theorem passes_readAttribute {c : Cursor} (h : c.rest ≠ []) : c.Passes c.readAttribute.next := by
  unfold readAttribute
  dsimp only
  split
  · exact (reaches_readName c).advanceTo h
  · next hn =>
    exact (passes_readName_of_ne_nil hn).trans_reaches
      ((reaches_readAttributeAfter c _ _).trans ((reaches_skipBlank _).trans (reaches_eat _ _)))

def readAttributes (c : Cursor) : Step (List Attribute) :=
  if c.stopsAt ']' then ⟨[], c, []⟩
  else if _ : c.skipBlank.stopsAt ']' then ⟨[], c.skipBlank, []⟩
  else
    let entry := c.skipBlank.readAttribute
    let entries := entry.next.readAttributes
    ⟨entry.value.toList ++ entries.value, entries.next, entry.diagnostics ++ entries.diagnostics⟩
termination_by c.rest.length
decreasing_by
  have h := rest_ne_nil_of_stopsAt_eq_false (Bool.eq_false_iff.2 ‹¬c.skipBlank.stopsAt ']'›)
  exact ((reaches_skipBlank c).trans_passes (passes_readAttribute h)).length_lt

theorem reaches_readAttributes (c : Cursor) : c.Reaches c.readAttributes.next := by
  fun_induction readAttributes c with
  | case1 => exact Reaches.refl _
  | case2 c => exact reaches_skipBlank c
  | case3 c _ h entry entries ih =>
    have h := rest_ne_nil_of_stopsAt_eq_false (Bool.eq_false_iff.2 h)
    exact (reaches_skipBlank c).trans ((passes_readAttribute h).reaches.trans ih)

def readAttributeList (c : Cursor) : Step (List Attribute) :=
  let list := c.readAttributes
  if list.next.peek = some ']' then ⟨list.value, list.next.next, list.diagnostics⟩
  else ⟨list.value, list.next, list.diagnostics ++ list.next.report .attributesNotClosed⟩

theorem reaches_readAttributeList (c : Cursor) : c.Reaches c.readAttributeList.next := by
  unfold readAttributeList
  dsimp only
  split
  · exact (reaches_readAttributes c).trans (reaches_next _)
  · exact reaches_readAttributes c

def readColumnTail (c : Cursor) : Step (List Attribute) :=
  if c.peek = some '[' then c.next.readAttributeList else ⟨[], c, []⟩

theorem reaches_readColumnTail (c : Cursor) : c.Reaches c.readColumnTail.next := by
  unfold readColumnTail
  split
  · exact (reaches_next c).trans (reaches_readAttributeList _)
  · exact Reaches.refl c

def readNameAndType (c : Cursor) : (List Char × List Char) × Cursor :=
  let name := c.readName
  let type := if name.1 = [] then ([], name.2.skipInline) else name.2.skipInline.readType
  ((name.1, type.1), type.2)

theorem reaches_readNameAndType (c : Cursor) : c.Reaches c.readNameAndType.2 := by
  have h := (reaches_readName c).trans (reaches_skipInline _)
  unfold readNameAndType
  dsimp only
  split
  · exact h
  · exact h.trans (reaches_readType _)

def readColumn (c : Cursor) : Step (Option Column) :=
  let head := c.readNameAndType
  if head.1.1 = [] ∨ head.1.2 = [] then
    ⟨none, (c.advanceTo head.2).skipEntry, c.report .columnIncomplete⟩
  else
    let tail := head.2.skipInline.readColumnTail
    let column : Column := { name := String.ofList head.1.1, type := String.ofList head.1.2 }
    ⟨some (tail.value.foldl Attribute.apply column), tail.next.skipEntry, tail.diagnostics⟩

theorem passes_readColumn {c : Cursor} (h : c.rest ≠ []) : c.Passes c.readColumn.next := by
  unfold readColumn
  dsimp only
  split
  · exact ((reaches_readNameAndType c).advanceTo h).trans_reaches (reaches_skipEntry _)
  · next hn =>
    have hn : c.readName.1 ≠ [] := fun k => hn (.inl k)
    have hp : c.Passes c.readNameAndType.2 := by
      unfold readNameAndType
      dsimp only
      simp only [hn, if_false]
      exact (passes_readName_of_ne_nil hn).trans_reaches
        ((reaches_skipInline _).trans (reaches_readType _))
    exact hp.trans_reaches ((reaches_skipInline _).trans
      ((reaches_readColumnTail _).trans (reaches_skipEntry _)))

end Cursor

end SchemaText.Diagram
