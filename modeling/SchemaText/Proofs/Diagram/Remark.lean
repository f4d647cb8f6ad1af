import SchemaText.Proofs.Diagram.DottedName
/-! Remarks at the end of lines: two slashes and a text. -/

namespace SchemaText.Diagram

def remarked (line : String) (remark : Option String) : String :=
  match remark with
  | none => line
  | some text => line ++ " //" ++ text

def remarkChars (remark : Option String) : List Char :=
  match remark with
  | none => []
  | some text => ' ' :: '/' :: '/' :: text.toList

theorem toList_remarked (line : String) (remark : Option String) :
    (remarked line remark).toList = line.toList ++ remarkChars remark := by
  cases remark <;> simp [remarked, remarkChars]

def Harmless (remark : Option String) : Prop :=
  ∀ text ∈ remark, '\n' ∉ text.toList ∧ '}' ∉ text.toList

instance (remark : Option String) : Decidable (Harmless remark) :=
  match remark with
  | none => isTrue (by simp [Harmless])
  | some text =>
    decidable_of_iff ('\n' ∉ text.toList ∧ '}' ∉ text.toList) (by simp [Harmless])

@[simp] theorem harmless_none : Harmless none := by simp [Harmless]

def withRemarks {α : Type} (remark : Nat → Option String) (entries : List α) :
    List (α × Option String) :=
  entries.zipIdx.map fun entry => (entry.1, remark entry.2)

section WithRemarks

variable {α : Type} {remark : Nat → Option String} {entries : List α}

@[simp] theorem map_fst_withRemarks : (withRemarks remark entries).map Prod.fst = entries := by
  simp [withRemarks, Function.comp_def, List.zipIdx_map_fst]

@[simp] theorem withRemarks_eq_nil_iff : withRemarks remark entries = [] ↔ entries = [] := by
  simp [withRemarks]

theorem withRemarks_none :
    withRemarks (fun _ => none) entries = entries.map fun entry => (entry, none) := by
  conv => rhs; rw [← List.zipIdx_map_fst 0 entries, List.map_map]
  rfl

theorem mem_of_mem_withRemarks {line : α × Option String}
    (h : line ∈ withRemarks remark entries) : line.1 ∈ entries := by
  have hm : line.1 ∈ (withRemarks remark entries).map Prod.fst := List.mem_map_of_mem h
  rwa [map_fst_withRemarks] at hm

theorem harmless_of_mem_withRemarks (k : ∀ i, Harmless (remark i)) {line : α × Option String}
    (h : line ∈ withRemarks remark entries) : Harmless line.2 := by
  obtain ⟨entry, _, rfl⟩ := List.mem_map.1 h
  exact k entry.2

end WithRemarks

def renderLines {α : Type} (write : α → String) (lines : List (α × Option String)) : List String :=
  lines.map fun line => remarked (write line.1) line.2

theorem renderLines_withRemarks_none {α : Type} (write : α → String) (entries : List α) :
    renderLines write (withRemarks (fun _ => none) entries) = entries.map write := by
  simp [renderLines, withRemarks_none, remarked]

/-- The remarks at the columns and the indexes of a table, by number. -/
structure TableRemarks where
  column : Nat → Option String := fun _ => none
  index : Nat → Option String := fun _ => none

/-- The remarks at the lines of a text, by the number of the block and of the line in it. -/
structure Remarks where
  table : Nat → TableRemarks := fun _ => {}
  value : Nat → Nat → Option String := fun _ _ => none

structure TableRemarks.AllHarmless (remarks : TableRemarks) : Prop where
  column : ∀ i, Harmless (remarks.column i)
  index : ∀ i, Harmless (remarks.index i)

structure Remarks.AllHarmless (remarks : Remarks) : Prop where
  table : ∀ t, (remarks.table t).AllHarmless
  value : ∀ e i, Harmless (remarks.value e i)

theorem allHarmless_empty : Remarks.AllHarmless {} where
  table _ := ⟨fun _ => harmless_none, fun _ => harmless_none⟩
  value _ _ := harmless_none

def renderTableWith (remarks : TableRemarks) (table : Table) : String :=
  joinLines
    (["Table " ++ renderQualifiedName table.qualifiedName ++ " \x7b"] ++
      renderLines renderColumn (withRemarks remarks.column table.columns) ++
      (if table.indexes.isEmpty then []
        else ["", "  indexes \x7b"] ++
          renderLines renderIndex (withRemarks remarks.index table.indexes) ++ ["  \x7d"]) ++
      (match table.note with
        | none => []
        | some text => ["", "  Note: " ++ quote text]) ++
      ["\x7d"])

theorem renderTable_eq (table : Table) : renderTable table = renderTableWith {} table := by
  obtain ⟨id, name, schema, columns, indexes, note, color⟩ := table
  cases note <;> simp [renderTable, renderTableWith, renderLines_withRemarks_none]

def renderEnumerationWith (remark : Nat → Option String) (enumeration : Enumeration) : String :=
  joinLines
    (["Enum " ++ renderQualifiedName enumeration.name ++ " \x7b"] ++
      renderLines (fun value => "  " ++ renderName value)
        (withRemarks remark enumeration.values) ++ ["\x7d"])

theorem renderEnumeration_eq (enumeration : Enumeration) :
    renderEnumeration enumeration = renderEnumerationWith (fun _ => none) enumeration := by
  rw [renderEnumeration, renderEnumerationWith, renderLines_withRemarks_none]

/-- The blocks of a text, with remarks at the lines of their columns, indexes and values. -/
def renderBlocksWith (remarks : Remarks) (keepCardinality : Bool) (schema : Schema) :
    List String :=
  (schema.tables.zipIdx.map fun entry => renderTableWith (remarks.table entry.2) entry.1) ++
    (schema.enumerations.zipIdx.map fun entry =>
      renderEnumerationWith (remarks.value entry.2) entry.1) ++
    (if schema.relationships.isEmpty then []
      else [joinLines (schema.relationships.map (renderRelationship keepCardinality))])

/-- Writes a schema in the notation, with remarks at the lines of columns, indexes and values. -/
def renderWith (remarks : Remarks) (keepCardinality : Bool) (schema : Schema) : String :=
  let blocks := renderBlocksWith remarks keepCardinality schema
  if blocks.isEmpty then "" else "\n\n".intercalate blocks ++ "\n"

theorem render_eq (keepCardinality : Bool) (schema : Schema) :
    render keepCardinality schema = renderWith {} keepCardinality schema := by
  have ht : (schema.tables.zipIdx.map fun entry => renderTableWith {} entry.1) =
      schema.tables.map renderTable := by
    conv => rhs; rw [← List.zipIdx_map_fst 0 schema.tables, List.map_map]
    exact List.map_congr_left fun entry _ => (renderTable_eq entry.1).symm
  have he : (schema.enumerations.zipIdx.map fun entry =>
      renderEnumerationWith (fun _ => none) entry.1) =
        schema.enumerations.map renderEnumeration := by
    conv => rhs; rw [← List.zipIdx_map_fst 0 schema.enumerations, List.map_map]
    exact List.map_congr_left fun entry _ => (renderEnumeration_eq entry.1).symm
  rw [render, renderWith, renderBlocks, renderBlocksWith, ht, he]

namespace Cursor

theorem endsName_remarkChars (remark : Option String) (rest : List Char) :
    EndsName (remarkChars remark ++ '\n' :: rest) := by
  cases remark <;> exact endsName_cons.2 (by decide)

theorem skipEntry_place_line (n : Nat) {line : List Char} (h : '\n' ∉ line) (k : '}' ∉ line)
    (rest : List Char) :
    (place n (line ++ '\n' :: rest)).skipEntry = place (n + line.length + 1) rest := by
  have hline : ∀ ch ∈ line, decide (ch ≠ '\n') && decide (ch ≠ '}') := by
    intro ch hc
    simpa using ⟨fun he => h (he ▸ hc), fun he => k (he ▸ hc)⟩
  exact eat_skipWhile_place n hline (by decide) rest

section Remarks

variable {remark : Option String} (h : Harmless remark)
include h

theorem skipEntry_place_remark (n : Nat) (rest : List Char) :
    (place n (remarkChars remark ++ '\n' :: rest)).skipEntry =
      place (n + (remarkChars remark).length + 1) rest := by
  cases remark with
  | none => exact skipEntry_place_line n (by simp [remarkChars]) (by simp [remarkChars]) rest
  | some text =>
    obtain ⟨hn, hb⟩ := h text rfl
    exact skipEntry_place_line n (by simpa [remarkChars] using hn)
      (by simpa [remarkChars] using hb) rest

theorem skipInline_place_remark (n : Nat) (rest : List Char) :
    (place n (remarkChars remark ++ '\n' :: rest)).skipInline.peek ≠ some '[' ∧
      (place n (remarkChars remark ++ '\n' :: rest)).skipInline.skipEntry =
        place (n + (remarkChars remark).length + 1) rest := by
  cases remark with
  | none =>
    have hs : (place n ('\n' :: rest)).skipInline = place n ('\n' :: rest) :=
      skipWhile_place_of_stops n (by simp)
    simp [remarkChars, hs, skipEntry_place_newline]
  | some text =>
    obtain ⟨hn, hb⟩ := h text rfl
    have hs : (place n (remarkChars (some text) ++ '\n' :: rest)).skipInline =
        place (n + 1) (('/' :: '/' :: text.toList) ++ '\n' :: rest) := by
      rw [remarkChars, List.cons_append, skipInline_place_cons]
      exact skipWhile_place_of_stops _ (by simp)
    rw [hs]
    refine ⟨by simp, ?_⟩
    rw [skipEntry_place_line _ (by simpa using hn) (by simpa using hb)]
    simp [remarkChars, Nat.add_assoc, Nat.add_comm 1]

end Remarks

end Cursor

end SchemaText.Diagram
