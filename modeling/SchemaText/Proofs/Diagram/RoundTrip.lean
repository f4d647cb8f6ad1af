import SchemaText.Proofs.Diagram.DocumentText
/-! The notation loses nothing of the schemas that it can express. -/

namespace SchemaText.Diagram

theorem schema_read_render (keep : Bool) {schema : Schema} (h : Expressible schema) :
    (read (render keep schema)).schema = writtenSchema keep schema := by
  obtain ⟨segments, hr, hs, _⟩ := exists_segments_renderWith keep h allHarmless_empty
  rw [render_eq, hr, hs]

theorem read_renderWith (keep : Bool) {schema : Schema} (h : Renderable schema)
    {remarks : Remarks} (k : remarks.AllHarmless) :
    read (renderWith remarks keep schema) = ⟨writtenSchema keep schema, []⟩ := by
  obtain ⟨segments, hr, hs, hq⟩ := exists_segments_renderWith keep h.toExpressible k
  have ht : segments.filterMap Segment.table? = schema.tables := congrArg Schema.tables hs
  have hids : ([] ++ (segments.filterMap Segment.table?).map Table.id).Nodup := by
    simpa [ht] using h.ids_nodup
  have hd : (readingOfSegments segments).diagnostics = [] := allDiagnostics_of_quiet hq hids
  rw [hr, ← hs, ← hd]

theorem read_render (keep : Bool) {schema : Schema} (h : Renderable schema) :
    read (render keep schema) = ⟨writtenSchema keep schema, []⟩ := by
  rw [render_eq, read_renderWith keep h allHarmless_empty]

/-- A renderable schema reads back as it was written, and without a report. Written without
cardinalities, it reads back with every relationship one to many. -/
theorem read_render_of_renderable {schema : Schema} (h : Renderable schema) :
    read (render true schema) = ⟨schema, []⟩ ∧
      read (render false schema) =
        ⟨{ schema with
            relationships := schema.relationships.map fun r =>
              { r with cardinality := .oneToMany } }, []⟩ := by
  refine ⟨?_, read_render false h⟩
  rw [read_render true h, writtenSchema_true]

def orderTable : Table where
  id := "shop.order"
  name := "order"
  schema := some "shop"
  columns :=
    [{ name := "id", type := "numeric(10, 2)", primaryKey := true, notNull := true },
     { name := "it's \x7b,]\x7d", type := "long text", default := some "a, b",
       note := some "// one\ntwo" }]
  indexes := [{ columns := ["id", "it's \x7b,]\x7d"], unique := true, name := some "by \"id\"" }]
  note := some "orders"

def orderSchema : Schema where
  tables := [orderTable]
  relationships := [{ fromTable := "shop.order", fromColumn := "id", toTable := "other.\"x\"",
                      toColumn := "id", cardinality := .manyToMany }]
  enumerations := [{ name := "shop.state", values := ["open", "not open"] }]

theorem expressible_orderTable : ExpressibleTable orderTable where
  id_eq := by decide
  name_ne := by decide
  name_dotFree := by decide
  schema_ne := by decide
  schema_dotFree := by decide
  id_quotable := by decide
  note_quotable := by decide
  color_none := rfl
  columns := by
    intro column hc
    simp only [orderTable, List.mem_cons, List.not_mem_nil, or_false] at hc
    rcases hc with rfl | rfl <;> constructor <;> decide +kernel
  indexes := by
    intro index hi
    obtain rfl := List.mem_singleton.1 hi
    constructor <;> decide +kernel

theorem renderable_orderSchema : Renderable orderSchema where
  tables := by
    intro table ht
    obtain rfl := List.mem_singleton.1 ht
    exact expressible_orderTable
  relationships := by
    intro r hr
    obtain rfl := List.mem_singleton.1 hr
    constructor <;> decide +kernel
  enumerations := by
    intro enumeration he
    obtain rfl := List.mem_singleton.1 he
    constructor <;> decide +kernel
  ids_nodup := by decide

theorem read_render_orderSchema :
    Renderable orderSchema ∧ read (render true orderSchema) = ⟨orderSchema, []⟩ :=
  ⟨renderable_orderSchema, (read_render_of_renderable renderable_orderSchema).1⟩

end SchemaText.Diagram
