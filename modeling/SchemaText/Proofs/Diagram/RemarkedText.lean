import SchemaText.Proofs.Diagram.RoundTrip
/-! Remarks behind the lines of a written schema, which reading passes over. A brace in one of them
is not passed over: it closes the block. -/

namespace SchemaText.Diagram

/-- A renderable schema reads back as it was written, and without a report, whatever remarks stand
behind its columns, indexes and values, if each is on one line and has no closing brace. -/
theorem read_remarked {schema : Schema} (h : Renderable schema) {remarks : Remarks}
    (k : remarks.AllHarmless) :
    read (renderWith remarks true schema) = ⟨schema, []⟩ ∧
      read (renderWith remarks true schema) = read (render true schema) := by
  have hr : read (renderWith remarks true schema) = ⟨schema, []⟩ := by
    rw [read_renderWith true h k, writtenSchema_true]
  refine ⟨hr, ?_⟩
  rw [hr, read_render true h, writtenSchema_true]

def settingRemarks : Remarks where
  table _ := { column _ := some " [pk, note: 'key']", index _ := some "[unique]  // twice" }
  value _ _ := some " [note: \"gone\", \x7b"

theorem allHarmless_settingRemarks : settingRemarks.AllHarmless where
  table _ :=
    { column := fun _ => (by decide +kernel : Harmless (some " [pk, note: 'key']"))
      index := fun _ => (by decide +kernel : Harmless (some "[unique]  // twice")) }
  value _ _ := (by decide +kernel : Harmless (some " [note: \"gone\", \x7b"))

theorem read_remarked_orderSchema :
    Renderable orderSchema ∧ settingRemarks.AllHarmless ∧
      renderWith settingRemarks true orderSchema ≠ render true orderSchema ∧
      read (renderWith settingRemarks true orderSchema) = ⟨orderSchema, []⟩ :=
  ⟨renderable_orderSchema, allHarmless_settingRemarks, by decide +kernel,
    (read_remarked renderable_orderSchema allHarmless_settingRemarks).1⟩

def pairTable : Table where
  id := "t"
  name := "t"
  columns := [{ name := "a", type := "int" }, { name := "b", type := "int" }]

def pairSchema : Schema where
  tables := [pairTable]

def braceRemarks : Remarks where
  table _ := { column i := if i = 0 then some " \x7d" else none }

theorem expressible_pairTable : ExpressibleTable pairTable where
  id_eq := by decide
  name_ne := by decide
  name_dotFree := by decide
  schema_ne := by decide
  schema_dotFree := by decide
  id_quotable := by decide
  note_quotable := by decide
  color_none := rfl
  columns := by
    intro column hc
    simp only [pairTable, List.mem_cons, List.not_mem_nil, or_false] at hc
    rcases hc with rfl | rfl <;> constructor <;> decide +kernel
  indexes := by simp [pairTable]

theorem renderable_pairSchema : Renderable pairSchema where
  tables := by
    intro table ht
    obtain rfl := List.mem_singleton.1 ht
    exact expressible_pairTable
  relationships := by simp [pairSchema]
  enumerations := by simp [pairSchema]
  ids_nodup := by decide

/-- Behind a brace in a remark the other columns of the table are lost. -/
theorem columns_lost_of_brace :
    Renderable pairSchema ∧ (∀ text ∈ (braceRemarks.table 0).column 0, '\n' ∉ text.toList) ∧
      renderWith braceRemarks true pairSchema =
        "Table t \x7b\n  a int // \x7d\n  b int\n\x7d\n" ∧
      ((read (renderWith braceRemarks true pairSchema)).schema.tables.map Table.columns =
        [[{ name := "a", type := "int" }]]) ∧
      (read (renderWith braceRemarks true pairSchema)).schema ≠ pairSchema :=
  ⟨renderable_pairSchema, by decide +kernel, by decide +kernel, by decide +kernel,
    by decide +kernel⟩

end SchemaText.Diagram
