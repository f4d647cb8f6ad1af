import SchemaText.Proofs.Diagram.Reparse
import SchemaText.Proofs.Sql.Extracted
/-! SQL texts converted to the notation. -/

namespace SchemaText.Sql

open Diagram

/-- A schema read from SQL that the notation can express: its names are not empty, and the texts
that can hold every quotation mark lack one of them. -/
structure Convertible (schema : Schema) : Prop where
  tableName_ne : ∀ table ∈ schema.tables, table.name ≠ ""
  id_start : ∀ table ∈ schema.tables, table.id.toList.head? ≠ some '.'
  columnName_ne : ∀ table ∈ schema.tables, ∀ column ∈ table.columns, column.name ≠ ""
  indexColumns_ne : ∀ table ∈ schema.tables, ∀ index ∈ table.indexes, index.columns ≠ []
  indexColumn_ne :
    ∀ table ∈ schema.tables, ∀ index ∈ table.indexes, ∀ column ∈ index.columns, column ≠ ""
  value_ne : ∀ enumeration ∈ schema.enumerations, ∀ value ∈ enumeration.values, value ≠ ""
  fromColumn_dotFree : ∀ r ∈ schema.relationships, '.' ∉ r.fromColumn.toList
  toColumn_dotFree : ∀ r ∈ schema.relationships, '.' ∉ r.toColumn.toList
  type_quotable :
    ∀ table ∈ schema.tables, ∀ column ∈ table.columns, Quotable column.type.toList
  default_quotable :
    ∀ table ∈ schema.tables, ∀ column ∈ table.columns, ∀ value ∈ column.default,
      needsQuotes value.toList → Quotable value.toList
  value_quotable :
    ∀ enumeration ∈ schema.enumerations, ∀ value ∈ enumeration.values, Quotable value.toList

theorem Unmarked.quotable {name : String} (h : Unmarked name) : Quotable name.toList :=
  ⟨'"', by decide, h⟩

theorem Unmarked.quotableParts {name : String} (h : Unmarked name) :
    QuotableParts name.toList :=
  quotableParts_of_quotable h.quotable

theorem schema_ne_of_id_start {table : Table}
    (h : QualifiedName.splitFirst table.id = (table.schema, table.name))
    (k : table.id.toList.head? ≠ some '.') : table.schema ≠ some "" := by
  intro hs
  rw [hs] at h
  have hid := (QualifiedName.splitFirst_eq_some_iff.1 h).2
  exact k (by rw [hid]; rfl)

theorem ExtractedSchema.renderable {schema : Schema} (h : ExtractedSchema schema)
    (k : Convertible schema) : Renderable schema where
  tables table ht := by
    have he := h.tables table ht
    refine expressibleTable_of_splitFirst he.splitFirst_id
      (schema_ne_of_id_start he.splitFirst_id (k.id_start table ht)) (k.tableName_ne table ht)
      he.id_unmarked.quotableParts ?_ he.color_none ?_ ?_
    · simp [he.note_none]
    · intro column hc
      have hx := he.columns column hc
      exact ⟨k.columnName_ne table ht column hc, hx.type_ne, hx.name_unmarked.quotable,
        k.type_quotable table ht column hc, k.default_quotable table ht column hc,
        fun text hn => (hx.note_unmarked text hn).quotable⟩
    · intro index hi
      have hx := he.indexes index hi
      exact ⟨k.indexColumns_ne table ht index hi, k.indexColumn_ne table ht index hi,
        fun column hc => (hx.column_unmarked column hc).quotable,
        fun name hn => (hx.name_unmarked name hn).quotable⟩
  relationships r hr := by
    have he := h.relationships r hr
    exact ⟨he.label_none, k.fromColumn_dotFree r hr, k.toColumn_dotFree r hr,
      he.fromTable_unmarked.quotableParts, he.fromColumn_unmarked.quotable,
      he.toTable_unmarked.quotableParts, he.toColumn_unmarked.quotable⟩
  enumerations enumeration he :=
    ⟨(h.enumerations enumeration he).quotableParts, k.value_ne enumeration he,
      k.value_quotable enumeration he⟩
  ids_nodup := h.ids_nodup

/-- The conversion of an SQL text to the notation reads back as the schema of the text. -/
theorem read_render_sql (sql : String) (h : Convertible (read sql).schema) :
    Diagram.read (render true (read sql).schema) = ⟨(read sql).schema, []⟩ := by
  rw [read_render true ((extracted_read sql).renderable h), writtenSchema_true]

def orderScript : String :=
  "CREATE TABLE shop.`order` (id int COMMENT 'key', next int REFERENCES shop.`order`(id));\n" ++
  "CREATE UNIQUE INDEX by_next ON \"shop\".\"order\" (next);\n" ++
  "CREATE TYPE state AS ENUM ('open', 'isn''t');"

theorem convertible_orderScript : Convertible (read orderScript).schema := by
  have hs : (read orderScript).schema =
      { tables :=
          [{ id := "shop.order", name := "order", schema := some "shop"
             columns :=
               [{ name := "id", type := "int", note := some "key" },
                { name := "next", type := "int" }]
             indexes := [{ columns := ["next"], unique := true, name := some "by_next" }] }]
        relationships :=
          [{ fromTable := "shop.order", fromColumn := "next", toTable := "shop.order"
             toColumn := "id", cardinality := .manyToOne }]
        enumerations := [{ name := "state", values := ["open", "isn't"] }] } := by
    decide +kernel
  rw [hs]
  constructor <;> decide +kernel

theorem read_render_orderScript :
    Convertible (read orderScript).schema ∧
      Diagram.read (render true (read orderScript).schema) = ⟨(read orderScript).schema, []⟩ :=
  ⟨convertible_orderScript, read_render_sql orderScript convertible_orderScript⟩

end SchemaText.Sql
