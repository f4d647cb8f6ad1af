import SchemaText.Proofs.Diagram.Legible
import SchemaText.Proofs.Diagram.RoundTrip
/-! Texts that were read, written and read again. -/

namespace SchemaText.Diagram

/-- The texts of the table that can be read without quotation marks around them lack one of the
marks, and its id does not start with a dot. -/
structure Enclosable (table : Table) : Prop where
  schema_ne : table.schema ≠ some ""
  type_quotable : ∀ column ∈ table.columns, Quotable column.type.toList
  columnNote_quotable : ∀ column ∈ table.columns, ∀ text ∈ column.note, Quotable text.toList
  note_quotable : ∀ text ∈ table.note, Quotable text.toList
  indexName_quotable : ∀ index ∈ table.indexes, ∀ name ∈ index.name, Quotable name.toList

theorem id_eq_qualifiedName {table : Table}
    (h : QualifiedName.splitFirst table.id = (table.schema, table.name))
    (k : table.schema ≠ some "") : table.id = table.qualifiedName := by
  cases hs : table.schema with
  | none =>
    rw [hs] at h
    rw [Table.qualifiedName, hs, (QualifiedName.splitFirst_eq_none_iff.1 h).2]
  | some schema =>
    rw [hs] at h k
    have hn : schema ≠ "" := fun e => k (by rw [e])
    rw [← String.toList_inj, toList_qualifiedName_some hs hn]
    exact (QualifiedName.splitFirst_eq_some_iff.1 h).2

theorem expressibleTable_of_splitFirst {table : Table}
    (hs : QualifiedName.splitFirst table.id = (table.schema, table.name))
    (hne : table.schema ≠ some "") (hname : table.name ≠ "")
    (hid : QuotableParts table.id.toList) (hnote : ∀ text ∈ table.note, Quotable text.toList)
    (hcolor : table.color = none) (hcolumns : ∀ column ∈ table.columns, ExpressibleColumn column)
    (hindexes : ∀ index ∈ table.indexes, ExpressibleIndex index) : ExpressibleTable table where
  id_eq := id_eq_qualifiedName hs hne
  name_ne := hname
  name_dotFree hn := by
    rw [hn] at hs
    obtain ⟨hd, he⟩ := QualifiedName.splitFirst_eq_none_iff.1 hs
    rwa [he]
  schema_ne := by
    rintro schema hsome rfl
    exact hne hsome
  schema_dotFree schema hsome := by
    rw [Option.mem_def.1 hsome] at hs
    exact (QualifiedName.splitFirst_eq_some_iff.1 hs).1
  id_quotable := hid
  note_quotable := hnote
  color_none := hcolor
  columns := hcolumns
  indexes := hindexes

theorem LegibleTable.expressible {table : Table} (h : LegibleTable table) (k : Enclosable table) :
    ExpressibleTable table := by
  refine expressibleTable_of_splitFirst h.splitFirst_id k.schema_ne h.name_ne h.id_quotable
    k.note_quotable h.color_none ?_ ?_
  · intro column hc
    have hl := h.columns column hc
    exact ⟨hl.name_ne, hl.type_ne, hl.name_quotable, k.type_quotable column hc,
      hl.default_quotable, k.columnNote_quotable column hc⟩
  · intro index hi
    have hl := h.indexes index hi
    exact ⟨hl.columns_ne, hl.column_ne, hl.column_quotable, k.indexName_quotable index hi⟩

theorem LegibleSchema.expressible {schema : Schema} (h : LegibleSchema schema)
    (k : ∀ table ∈ schema.tables, Enclosable table) : Expressible schema where
  tables table ht := (h.tables table ht).expressible (k table ht)
  relationships := h.relationships
  enumerations := h.enumerations

/-- What was read from any text, well formed or not, is the same after it was written and read
again, and so it is written the same again. -/
theorem read_render_read (source : String)
    (h : ∀ table ∈ (read source).schema.tables, Enclosable table) :
    (read (render true (read source).schema)).schema = (read source).schema ∧
      ((read (render true (read source).schema)).accept false).map (render true) =
        .ok (render true (read source).schema) := by
  -- Every schema that was read is expressible but for what `Enclosable` asks.
  have hs : (read (render true (read source).schema)).schema = (read source).schema := by
    rw [schema_read_render true ((legible_read source).expressible h), writtenSchema_true]
  refine ⟨hs, ?_⟩
  rw [Reading.accept_lenient, hs]
  rfl

def unclosedSource : String :=
  "Table 'a.b'.\"c\" \x7b\n y numeric(1 [note: z, default: 'q \x7d"

theorem enclosable_unclosedSource :
    ∀ table ∈ (read unclosedSource).schema.tables, Enclosable table := by
  have hr : (read unclosedSource).schema.tables =
      [{ id := "a.b.c", name := "b.c", schema := some "a"
         columns := [{ name := "y", type := "numeric(1 [note: z, default: 'q \x7d" }] }] := by
    decide +kernel
  rw [hr]
  intro table ht
  obtain rfl := List.mem_singleton.1 ht
  constructor <;> decide +kernel

theorem read_render_read_unclosedSource :
    (∀ table ∈ (read unclosedSource).schema.tables, Enclosable table) ∧
      (read (render true (read unclosedSource).schema)).schema = (read unclosedSource).schema :=
  ⟨enclosable_unclosedSource, (read_render_read unclosedSource enclosable_unclosedSource).1⟩

end SchemaText.Diagram
