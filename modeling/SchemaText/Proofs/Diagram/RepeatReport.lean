import Mathlib.Data.Finset.Card
import SchemaText.Proofs.Diagram.InnerReport
import SchemaText.Proofs.Diagram.Legible
/-! Repeated table ids: which diagnostics report one, and how many of them a reading has. -/

namespace SchemaText.Diagram

def reportsRepeat (diagnostic : Diagnostic) : Bool :=
  "duplicate table id".toList.isPrefixOf diagnostic.message.toList

def RepeatFree (diagnostics : List Diagnostic) : Prop :=
  ∀ diagnostic ∈ diagnostics, reportsRepeat diagnostic = false

theorem RepeatFree.countP_eq {diagnostics : List Diagnostic} (h : RepeatFree diagnostics) :
    diagnostics.countP reportsRepeat = 0 := by
  simpa [RepeatFree, List.countP_eq_zero] using h

def Notice.isRepeat : Notice → Bool
  | .tableIdRepeated _ => true
  | _ => false

theorem isPrefixOf_append_of_false {start text : List Char} (h : start.isPrefixOf text = false)
    (k : text.isPrefixOf start = false) (rest : List Char) :
    start.isPrefixOf (text ++ rest) = false := by
  rw [Bool.eq_false_iff, Ne, List.isPrefixOf_iff_prefix] at h k ⊢
  exact fun hp => (List.prefix_or_prefix_of_prefix hp (List.prefix_append text rest)).elim h k

theorem isPrefixOf_message (notice : Notice) :
    "duplicate table id".toList.isPrefixOf notice.message.toList = notice.isRepeat := by
  cases notice with
  | tableIdRepeated id =>
    change "duplicate table id".toList.isPrefixOf
      ("duplicate table id '" ++ id ++ "'").toList = true
    rw [String.toList_append, String.toList_append, List.append_assoc]
    refine List.isPrefixOf_iff_prefix.2 (List.IsPrefix.trans ?_ (List.prefix_append _ _))
    exact List.isPrefixOf_iff_prefix.1 (by decide +kernel)
  | notWithout word =>
    change "duplicate table id".toList.isPrefixOf ("'not " ++ word ++ "'").toList = false
    rw [String.toList_append, String.toList_append, List.append_assoc]
    exact isPrefixOf_append_of_false (by decide +kernel) (by decide +kernel) _
  | unknownAttribute name =>
    change "duplicate table id".toList.isPrefixOf ("unknown '" ++ name ++ "'").toList = false
    rw [String.toList_append, String.toList_append, List.append_assoc]
    exact isPrefixOf_append_of_false (by decide +kernel) (by decide +kernel) _
  | _ => decide +kernel

theorem reportsRepeat_diagnostic (notice : Notice) (offset : Nat) :
    reportsRepeat (notice.diagnostic offset) = notice.isRepeat :=
  isPrefixOf_message notice

theorem Notice.isRepeat_of_isInner {notice : Notice} (h : notice.isInner) :
    notice.isRepeat = false := by
  cases notice <;> first | rfl | cases h

theorem Cursor.ReportsInner.repeatFree {c : Cursor} {diagnostics : List Diagnostic}
    (h : c.ReportsInner diagnostics) : RepeatFree diagnostics := by
  intro d hd
  obtain ⟨notice, place, rfl, hn, _⟩ := h d hd
  rw [reportsRepeat_diagnostic, Notice.isRepeat_of_isInner hn]

namespace Segment

theorem diagnostics_of_table?_eq_none {segment : Segment} (h : segment.table? = none)
    (ids : List String) : segment.diagnostics ids = segment.ownDiagnostics := by
  cases segment with
  | table offset t list => cases h; rfl
  | _ => rfl

theorem countP_diagnostics_of_table? {segment : Segment} {t : Table}
    (h : segment.table? = some t) (k : RepeatFree segment.ownDiagnostics) (ids : List String) :
    (segment.diagnostics ids).countP reportsRepeat = if t.id ∈ ids then 1 else 0 := by
  cases segment with
  | table offset t' list =>
    cases h
    have hl : list.countP reportsRepeat = 0 := RepeatFree.countP_eq k
    rw [diagnostics]
    split
    · rw [List.countP_append, hl, List.countP_singleton, reportsRepeat_diagnostic]
      rfl
    · exact hl
  | _ => cases h

theorem countP_allDiagnostics {segments : List Segment}
    (h : ∀ segment ∈ segments, RepeatFree segment.ownDiagnostics) (ids : List String) :
    (allDiagnostics ids segments).countP reportsRepeat +
        (ids ++ (segments.filterMap table?).map Table.id).toFinset.card =
      (segments.filterMap table?).length + ids.toFinset.card := by
  -- Along the segments, with the ids of the tables before them general.
  induction segments generalizing ids with
  | nil => simp [allDiagnostics]
  | cons segment segments ih =>
    obtain ⟨hs, hr⟩ := List.forall_mem_cons.1 h
    rw [allDiagnostics, List.countP_append]
    cases ht : segment.table? with
    | none =>
      have hrest := ih hr ids
      rw [diagnostics_of_table?_eq_none ht, hs.countP_eq, List.filterMap_cons_none ht]
      simpa using hrest
    | some t =>
      have hrest := ih hr (ids ++ [t.id])
      rw [countP_diagnostics_of_table? ht hs, List.filterMap_cons_some ht]
      simp only [Option.map_some, Option.toList_some, List.map_cons, List.length_cons]
      rw [List.append_assoc, List.singleton_append] at hrest
      have hc : (ids ++ [t.id]).toFinset.card + (if t.id ∈ ids then 1 else 0) =
          ids.toFinset.card + 1 := by
        rw [List.toFinset_append, List.toFinset_cons, List.toFinset_nil, insert_empty_eq,
          Finset.union_comm, ← Finset.insert_eq]
        split
        · next hm => rw [Finset.insert_eq_of_mem (List.mem_toFinset.2 hm)]
        · next hm => rw [Finset.card_insert_of_notMem (mt List.mem_toFinset.1 hm)]
      omega

end Segment

namespace Cursor

theorem repeatFree_segments (inStray : Bool) (c : Cursor) :
    ∀ segment ∈ c.segments inStray, RepeatFree segment.ownDiagnostics := by
  intro segment hs
  rcases reports_segments inStray c segment hs with ⟨place, _, rfl⟩ | h
  · intro d hd
    rw [List.mem_singleton.1 hd, reportsRepeat_diagnostic]
    rfl
  · exact h.repeatFree

end Cursor

theorem LegibleTable.id_ne {table : Table} (h : LegibleTable table) : table.id ≠ "" := by
  intro k
  have hs := h.splitFirst_id
  rw [k] at hs
  exact h.name_ne (congrArg Prod.snd hs).symm

/-- A reading whose schema has nothing half read in it, and whose reports tell how many tables share
the id of an earlier one. -/
structure WholeReading (reading : Reading) : Prop where
  schema : LegibleSchema reading.schema
  id_ne : ∀ table ∈ reading.schema.tables, table.id ≠ ""
  repeats :
    reading.diagnostics.countP reportsRepeat + (reading.schema.tables.map Table.id).toFinset.card =
      reading.schema.tables.length

/-- Whatever the text is, nothing half read gets into the schema. -/
theorem wholeReading_read (source : String) : WholeReading (read source) := by
  have hl := legible_read source
  refine ⟨hl, fun table ht => (hl.tables table ht).id_ne, ?_⟩
  have hf := Cursor.repeatFree_segments false (Cursor.ofPosition source.toList 0)
  simpa [read, readingOfSegments] using Segment.countP_allDiagnostics hf []

end SchemaText.Diagram
