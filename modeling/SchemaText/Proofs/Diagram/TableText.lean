import SchemaText.Diagram.Table
import SchemaText.Proofs.Diagram.IndexText
import SchemaText.Proofs.QualifiedName
/-! Tables, written and read back. -/

namespace SchemaText.Diagram

def writtenColumns (lines : List (Column × Option String)) : List Char :=
  lines.flatMap fun line => (renderColumn line.1).toList ++ (remarkChars line.2 ++ ['\n'])

def writtenIndexBlock (lines : List (Index × Option String)) : List Char :=
  if lines = [] then []
  else "\n  indexes \x7b\n".toList ++ writtenIndexes lines ++ "  \x7d\n".toList

def writtenNote (note : Option String) : List Char :=
  match note with
  | none => []
  | some text => "\n  Note: ".toList ++ quoteChars text.toList ++ ['\n']

theorem writtenNote_some (text : String) :
    writtenNote (some text) = "\n  Note: ".toList ++ quoteChars text.toList ++ ['\n'] := rfl

def writtenBody (remarks : TableRemarks) (table : Table) : List Char :=
  writtenColumns (withRemarks remarks.column table.columns) ++
    (writtenIndexBlock (withRemarks remarks.index table.indexes) ++
      (writtenNote table.note ++ ['}']))

def entriesOf (table : Table) : List TableEntry :=
  table.columns.map .column ++
    ((if table.indexes = [] then [] else [.indexes table.indexes]) ++
      (table.note.map TableEntry.note).toList)

theorem toList_renderTableWith (remarks : TableRemarks) (table : Table) :
    (renderTableWith remarks table).toList =
      "Table ".toList ++ (renderQualifiedNameChars table.qualifiedName.toList ++
        (" \x7b\n".toList ++ writtenBody remarks table)) := by
  obtain ⟨id, name, schema, columns, indexes, note, color⟩ := table
  unfold renderTableWith joinLines writtenBody writtenIndexBlock writtenNote writtenColumns
    writtenIndexes renderLines
  simp only [String.toList_intercalate, List.map_append, List.map_cons, List.map_nil]
  rw [Text.intercalate_concat]
  cases indexes <;> cases note <;>
    simp [renderQualifiedName, List.flatMap_map, quote, List.flatMap_append, toList_remarked,
      withRemarks]

theorem exists_columnEntry_eq_cons (column : Column) :
    ∃ ch tail, columnEntry column = ch :: tail ∧ opensName ch := by
  obtain ⟨ch, tail, hc, ho⟩ := exists_renderNameChars_eq_cons column.name.toList
  exact ⟨ch, _, by rw [columnEntry, toList_renderName, hc, List.cons_append], ho⟩

namespace Cursor

theorem peek_skipKeyword_columnEntry (n : Nat) (column : Column) (rest : List Char) :
    ∃ ch, (place n (columnEntry column ++ rest)).skipKeyword.skipBlank.peek = some ch ∧
      (isBare ch ∨ isMark ch) := by
  obtain ⟨first, tail, ht, hf⟩ := exists_renderType_eq_cons column.type
  have hw : columnEntry column ++ rest = renderNameChars column.name.toList ++ ' ' :: first ::
      (tail ++ ((renderSettings (renderAttributes column)).toList ++ rest)) := by
    simp [columnEntry, toList_renderName, ht]
  rw [hw]
  generalize tail ++ ((renderSettings (renderAttributes column)).toList ++ rest) = more
  generalize column.name.toList = name
  have hfirst (m : Nat) : (place m (first :: more)).skipBlank.peek = some first := by
    have hb := stops_isBlank_renderType column.type []
    rw [ht, List.cons_append, stops_cons] at hb
    rw [skipBlank_place_of_stops m (stops_cons.2 hb), peek_place_cons]
  -- A bare name may itself be taken for a keyword, in part or as a whole.
  by_cases hp : isPlainName name
  · have hr := renderNameChars_of_isPlainName hp
    have hall : ∀ c ∈ name.takeWhile Char.isAlpha, c.isAlpha :=
      List.all_eq_true.1 List.all_takeWhile
    have hsplit : name.takeWhile Char.isAlpha ++ name.dropWhile Char.isAlpha = name :=
      List.takeWhile_append_dropWhile
    cases hd : name.dropWhile Char.isAlpha with
    | nil =>
      -- the name is made of letters only, so the type comes next
      have hn : ∀ c ∈ name, c.isAlpha := by
        have ht : name.takeWhile Char.isAlpha = name := by simpa [hd] using hsplit
        rwa [ht] at hall
      refine ⟨first, ?_, hf⟩
      rw [hr, skipKeyword, skipWhile_place n hn (stops_cons.2 (by decide)),
        skipBlank_place_cons _ (by decide), hfirst]
    | cons c others =>
      have hstop : c.isAlpha = false := by
        have := List.head?_dropWhile_not Char.isAlpha name
        simpa [hd] using this
      have hc : isPlain c := by
        simp only [isPlainName, Bool.and_eq_true, List.all_eq_true] at hp
        exact hp.2 c (by rw [← hsplit, hd]; simp)
      have hn : name = name.takeWhile Char.isAlpha ++ c :: others := by rw [← hd, hsplit]
      refine ⟨c, ?_, .inl (isBare_of_isPlain hc)⟩
      rw [hr, hn, List.append_assoc, List.cons_append, skipKeyword,
        skipWhile_place n hall (stops_cons.2 hstop),
        skipBlank_place_of_stops _ (stops_cons.2 (isBlank_eq_false_of_isPlain hc)),
        peek_place_cons]
  · have hr := renderNameChars_of_not_isPlainName hp
    have hm := isMark_markFor name
    have ha : (markFor name).isAlpha = false := by
      have hmem := isMark_iff.1 hm
      simp only [marks, List.mem_cons, List.not_mem_nil, or_false] at hmem
      rcases hmem with h | h | h <;> rw [h] <;> rfl
    refine ⟨markFor name, ?_, .inr hm⟩
    rw [hr, List.cons_append, skipKeyword, skipWhile_place_of_stops n (stops_cons.2 ha),
      skipBlank_place_of_stops n (stops_cons.2 (isBlank_eq_false_of_isMark hm)), peek_place_cons]

theorem readTableEntries_blank (n : Nat) {ch : Char} (h : Text.isBlank ch) (rest : List Char) :
    (place n (ch :: rest)).readTableEntries = (place (n + 1) rest).readTableEntries := by
  rw [readTableEntries, readTableEntries, skipBlank_place_cons n h rest]

theorem readTableEntries_of_not_blank (n : Nat) {ch : Char} (h : Text.isBlank ch = false)
    (k : ch ≠ '}') (rest : List Char) :
    (place n (ch :: rest)).readTableEntries =
      let entry := (place n (ch :: rest)).readTableEntry
      let entries := entry.next.readTableEntries
      ⟨entry.value.toList ++ entries.value, entries.next,
        entry.diagnostics ++ entries.diagnostics⟩ := by
  rw [readTableEntries, skipBlank_place_of_stops n (stops_cons.2 h)]
  simp [k]

theorem readTableEntries_end (n : Nat) (rest : List Char) :
    (place n ('}' :: rest)).readTableEntries = ⟨[], place n ('}' :: rest), []⟩ := by
  rw [readTableEntries, skipBlank_place_of_stops n (stops_cons.2 (by decide))]
  simp

theorem readTableEntry_column (n : Nat) {column : Column} (h : ExpressibleColumn column)
    {remark : Option String} (k : Harmless remark) (rest : List Char) :
    (place n (columnEntry column ++ (remarkChars remark ++ '\n' :: rest))).readTableEntry =
      ⟨some (.column column),
        place (n + (columnEntry column ++ remarkChars remark).length + 1) rest, []⟩ := by
  have hr := readColumn_place n h k rest
  generalize remarkChars remark ++ '\n' :: rest = more at hr ⊢
  obtain ⟨ch, hp, ho⟩ := peek_skipKeyword_columnEntry n column more
  have hcolon : ch ≠ ':' := by
    rintro rfl
    exact absurd ho (by decide)
  have hbrace : ch ≠ '{' := by
    rintro rfl
    exact absurd ho (by decide)
  -- What comes behind the letters of the name tells a column from a note and from a block.
  have hn : (place n (columnEntry column ++ more)).isNote = false := by
    simp [isNote, hp, hcolon]
  have hi : (place n (columnEntry column ++ more)).isIndexBlock = false := by
    simp [isIndexBlock, hp, hbrace]
  have hc : (place n (columnEntry column ++ more)).isComment = false := by
    obtain ⟨first, tail, hf, ho⟩ := exists_columnEntry_eq_cons column
    have hs : first ≠ '/' := by
      rintro rfl
      exact absurd ho (by decide)
    rw [hf, List.cons_append, isComment_place_cons n hs]
  rw [readTableEntry, hc, hn, hi, hr]
  rfl

theorem readTableEntries_columns (n : Nat) {lines : List (Column × Option String)}
    (h : ∀ line ∈ lines, ExpressibleColumn line.1) (k : ∀ line ∈ lines, Harmless line.2)
    (rest : List Char) :
    (place n (writtenColumns lines ++ rest)).readTableEntries =
      let entries := (place (n + (writtenColumns lines).length) rest).readTableEntries
      ⟨(lines.map Prod.fst).map .column ++ entries.value, entries.next, entries.diagnostics⟩ := by
  have hs : Text.isBlank ' ' := by decide
  induction lines generalizing n with
  | nil => simp [writtenColumns]
  | cons line lines ih =>
    obtain ⟨ch, tail, hc, ho⟩ := exists_columnEntry_eq_cons line.1
    have hb : Text.isBlank ch = false := isBlank_eq_false_of_opensName ho
    have hbrace : ch ≠ '}' := by
      rintro rfl
      exact absurd ho (by decide)
    have hw : writtenColumns (line :: lines) ++ rest =
        ' ' :: ' ' :: (columnEntry line.1 ++
          (remarkChars line.2 ++ '\n' :: (writtenColumns lines ++ rest))) := by
      simp [writtenColumns, toList_renderColumn]
    have hl : n + (writtenColumns (line :: lines)).length =
        n + 1 + 1 + (columnEntry line.1 ++ remarkChars line.2).length + 1 +
          (writtenColumns lines).length := by
      simp [writtenColumns, toList_renderColumn]
      omega
    have hr := readTableEntry_column (n + 1 + 1) (h line (by simp)) (k line (by simp))
      (writtenColumns lines ++ rest)
    have hi := ih (n + 1 + 1 + (columnEntry line.1 ++ remarkChars line.2).length + 1)
      (fun l hm => h l (by simp [hm])) fun l hm => k l (by simp [hm])
    rw [hw, hl, readTableEntries_blank _ hs, readTableEntries_blank _ hs]
    generalize n + 1 + 1 + (columnEntry line.1 ++ remarkChars line.2).length + 1 = m at hr hi ⊢
    rw [hc, List.cons_append] at hr ⊢
    rw [readTableEntries_of_not_blank _ hb hbrace, hr]
    simp only [hi, Option.toList_some, List.map_cons, List.cons_append, List.nil_append]

theorem readTableEntry_indexBlock (n : Nat) {lines : List (Index × Option String)}
    (h : ∀ line ∈ lines, ExpressibleIndex line.1) (k : ∀ line ∈ lines, Harmless line.2)
    (rest : List Char) :
    (place n ("indexes \x7b\n".toList ++ (writtenIndexes lines ++
        ' ' :: ' ' :: '}' :: rest))).readTableEntry =
      ⟨some (.indexes (lines.map Prod.fst)),
        place (n + 10 + (writtenIndexes lines).length + 3) rest, []⟩ := by
  have ht : "indexes \x7b\n".toList ++ (writtenIndexes lines ++ ' ' :: ' ' :: '}' :: rest) =
      "indexes".toList ++ (' ' :: '{' :: '\n' ::
        (writtenIndexes lines ++ ' ' :: ' ' :: '}' :: rest)) := by
    simp
  have hword : "indexes".toList.all Char.isAlpha := by decide
  have hstop : Stops Char.isAlpha (' ' :: '{' :: '\n' ::
      (writtenIndexes lines ++ ' ' :: ' ' :: '}' :: rest)) := stops_cons.2 (by decide)
  have hs (m : Nat) (more : List Char) :
      (place m (' ' :: '{' :: more)).skipBlank = place (m + 1) ('{' :: more) :=
    skipBlank_place_space m (stops_cons.2 (by decide))
  rw [ht]
  have hk := keyword_place n hword hstop
  have hsk := skipKeyword_place n hword hstop
  have hc : (place n ("indexes".toList ++ (' ' :: '{' :: '\n' ::
      (writtenIndexes lines ++ ' ' :: ' ' :: '}' :: rest)))).isComment = false :=
    isComment_place_cons n (by decide) _
  have hl : String.ofList (Text.lower "indexes".toList) = "indexes" := by rfl
  have hi : Text.isBlank '\n' := by decide
  simp only [readTableEntry, hc, isNote, hk, isIndexBlock, hsk, hs, peek_place_cons, hl,
    readIndexBlock, next_place_cons, readIndexEntries_blank _ hi, readIndexEntries_place _ h k,
    eat_place_cons]
  have hp : n + "indexes".toList.length + 1 + 1 + 1 + (writtenIndexes lines).length + 2 + 1 =
      n + 10 + (writtenIndexes lines).length + 3 := by
    have hk : "indexes".toList.length = 7 := rfl
    omega
  rw [hp]
  rfl

theorem readTableEntries_indexBlock (n : Nat) {lines : List (Index × Option String)}
    (h : ∀ line ∈ lines, ExpressibleIndex line.1) (k : ∀ line ∈ lines, Harmless line.2)
    (rest : List Char) :
    (place n (writtenIndexBlock lines ++ rest)).readTableEntries =
      let entries := (place (n + (writtenIndexBlock lines).length) rest).readTableEntries
      ⟨(if lines = [] then [] else [.indexes (lines.map Prod.fst)]) ++ entries.value, entries.next,
        entries.diagnostics⟩ := by
  by_cases hi : lines = []
  · simp [writtenIndexBlock, hi]
  · have hn : Text.isBlank '\n' := by decide
    have hs : Text.isBlank ' ' := by decide
    have hw : writtenIndexBlock lines ++ rest = '\n' :: ' ' :: ' ' ::
        ("indexes \x7b\n".toList ++ (writtenIndexes lines ++ ' ' :: ' ' :: '}' :: '\n' :: rest)) := by
      simp [writtenIndexBlock, hi]
    have hl : n + (writtenIndexBlock lines).length =
        n + 1 + 1 + 1 + 10 + (writtenIndexes lines).length + 3 + 1 := by
      simp [writtenIndexBlock, hi]
      omega
    have hr := readTableEntry_indexBlock (n + 1 + 1 + 1) h k ('\n' :: rest)
    rw [hw, hl, readTableEntries_blank _ hn, readTableEntries_blank _ hs,
      readTableEntries_blank _ hs]
    generalize n + 1 + 1 + 1 = m at hr ⊢
    have hc : "indexes \x7b\n".toList = 'i' :: "ndexes \x7b\n".toList := rfl
    rw [hc, List.cons_append] at hr ⊢
    rw [readTableEntries_of_not_blank _ (by decide) (by decide), hr]
    simp only [readTableEntries_blank _ hn, hi, if_false, Option.toList_some, List.nil_append]

theorem readTableEntry_note (n : Nat) {text : String} (h : Quotable text.toList)
    (rest : List Char) :
    (place n ("Note: ".toList ++ (quoteChars text.toList ++ rest))).readTableEntry =
      ⟨some (.note text), place (n + 6 + (quoteChars text.toList).length) rest, []⟩ := by
  have ht : "Note: ".toList ++ (quoteChars text.toList ++ rest) =
      "Note".toList ++ (':' :: ' ' :: (quoteChars text.toList ++ rest)) := by
    simp
  have hword : "Note".toList.all Char.isAlpha := by decide
  have hstop : Stops Char.isAlpha (':' :: ' ' :: (quoteChars text.toList ++ rest)) :=
    stops_cons.2 (by decide)
  have hk := keyword_place n hword hstop
  have hsk := skipKeyword_place n hword hstop
  have hb (m : Nat) (more : List Char) :
      (place m (':' :: more)).skipBlank = place m (':' :: more) :=
    skipBlank_place_of_stops m (stops_cons.2 (by decide))
  have hq := stops_isBlank_quoteChars text.toList rest
  have hc : (place n ("Note".toList ++
      (':' :: ' ' :: (quoteChars text.toList ++ rest)))).isComment = false :=
    isComment_place_cons n (by decide) _
  have hn : (place n ("Note".toList ++ (':' :: ' ' :: (quoteChars text.toList ++ rest)))).isNote =
      true := by
    rw [isNote, hk, hsk, hb, peek_place_cons]
    rfl
  rw [ht, readTableEntry, hc, hn, readNote, hsk, skipOptional_place_colon _ hq,
    readValue_quoteChars _ h]
  simp only [String.ofList_toList]
  rfl

theorem readTableEntries_note (n : Nat) {note : Option String}
    (h : ∀ text ∈ note, Quotable text.toList) (rest : List Char) :
    (place n (writtenNote note ++ rest)).readTableEntries =
      let entries := (place (n + (writtenNote note).length) rest).readTableEntries
      ⟨(note.map TableEntry.note).toList ++ entries.value, entries.next, entries.diagnostics⟩ := by
  cases note with
  | none => rfl
  | some text =>
    have hn : Text.isBlank '\n' := by decide
    have hs : Text.isBlank ' ' := by decide
    have hw : writtenNote (some text) ++ rest = '\n' :: ' ' :: ' ' ::
        ("Note: ".toList ++ (quoteChars text.toList ++ '\n' :: rest)) := by
      simp [writtenNote_some]
    have hl : n + (writtenNote (some text)).length =
        n + 1 + 1 + 1 + 6 + (quoteChars text.toList).length + 1 := by
      simp [writtenNote_some]
      omega
    have hr := readTableEntry_note (n + 1 + 1 + 1) (h text rfl) ('\n' :: rest)
    rw [hw, hl, readTableEntries_blank _ hn, readTableEntries_blank _ hs,
      readTableEntries_blank _ hs]
    generalize n + 1 + 1 + 1 = m at hr ⊢
    have hc : "Note: ".toList = 'N' :: "ote: ".toList := rfl
    rw [hc, List.cons_append] at hr ⊢
    rw [readTableEntries_of_not_blank _ (by decide) (by decide), hr]
    simp only [readTableEntries_blank _ hn, Option.toList_some, Option.map_some, List.nil_append]

theorem readTableEntries_place (n : Nat) {table : Table} (h : ExpressibleTable table)
    {remarks : TableRemarks} (k : remarks.AllHarmless) (rest : List Char) :
    (place n (writtenBody remarks table ++ rest)).readTableEntries =
      ⟨entriesOf table, place (n + (writtenBody remarks table).length - 1) ('}' :: rest), []⟩ := by
  -- The length ends with the brace, which the entries leave to the table.
  have hw : writtenBody remarks table ++ rest =
      writtenColumns (withRemarks remarks.column table.columns) ++
        (writtenIndexBlock (withRemarks remarks.index table.indexes) ++
          (writtenNote table.note ++ '}' :: rest)) := by
    simp [writtenBody]
  have hl : n + (writtenBody remarks table).length - 1 =
      n + (writtenColumns (withRemarks remarks.column table.columns)).length +
        (writtenIndexBlock (withRemarks remarks.index table.indexes)).length +
          (writtenNote table.note).length := by
    simp [writtenBody]
    omega
  have hc : ∀ line ∈ withRemarks remarks.column table.columns, ExpressibleColumn line.1 :=
    fun line hm => h.columns line.1 (mem_of_mem_withRemarks hm)
  have hi : ∀ line ∈ withRemarks remarks.index table.indexes, ExpressibleIndex line.1 :=
    fun line hm => h.indexes line.1 (mem_of_mem_withRemarks hm)
  rw [hw, hl, readTableEntries_columns n hc fun _ => harmless_of_mem_withRemarks k.column]
  simp only [readTableEntries_indexBlock _ hi fun _ => harmless_of_mem_withRemarks k.index,
    readTableEntries_note _ h.note_quotable, readTableEntries_end, List.append_nil, entriesOf,
    map_fst_withRemarks, withRemarks_eq_nil_iff]

end Cursor

theorem toList_qualifiedName_some {table : Table} {schema : String} (h : table.schema = some schema)
    (k : schema ≠ "") :
    table.qualifiedName.toList = schema.toList ++ '.' :: table.name.toList := by
  simp [Table.qualifiedName, h, k]

theorem splitFirst_id {table : Table} (h : ExpressibleTable table) :
    QualifiedName.splitFirst table.id = (table.schema, table.name) := by
  have hid := h.id_eq
  cases hs : table.schema with
  | none =>
    have hq : table.id = table.name := by rw [hid, Table.qualifiedName, hs]
    rw [hq]
    exact QualifiedName.splitFirst_eq_none_iff.2 ⟨h.name_dotFree hs, rfl⟩
  | some schema =>
    rw [hid]
    exact QualifiedName.splitFirst_eq_some_iff.2
      ⟨h.schema_dotFree schema hs, toList_qualifiedName_some hs (h.schema_ne schema hs)⟩

theorem columns_entriesOf (table : Table) :
    (entriesOf table).filterMap TableEntry.column? = table.columns := by
  cases hn : table.note <;> by_cases hi : table.indexes = [] <;>
    simp [entriesOf, hn, hi, TableEntry.column?, List.filterMap_map, Function.comp_def]

theorem indexes_entriesOf (table : Table) :
    (entriesOf table).flatMap TableEntry.indexList = table.indexes := by
  cases hn : table.note <;> by_cases hi : table.indexes = [] <;>
    simp [entriesOf, hn, hi, TableEntry.indexList, List.flatMap_map]

theorem notes_entriesOf (table : Table) :
    (entriesOf table).filterMap TableEntry.note? = table.note.toList := by
  cases hn : table.note <;> by_cases hi : table.indexes = [] <;>
    simp [entriesOf, hn, hi, TableEntry.note?, List.filterMap_map, List.filterMap_cons,
      Function.comp_def]

theorem tableOfEntries_entriesOf {table : Table} (h : ExpressibleTable table) :
    tableOfEntries table.id (entriesOf table) = table := by
  -- The last note of a block counts, and a written table has one at most.
  have hn : table.note.toList.getLast? = table.note := by cases table.note <;> rfl
  rw [tableOfEntries, splitFirst_id h, columns_entriesOf, indexes_entriesOf, notes_entriesOf, hn]
  simp only [← h.color_none]

namespace Cursor

theorem readTableBody_place (start : Cursor) (n : Nat) {table : Table} (h : ExpressibleTable table)
    {remarks : TableRemarks} (k : remarks.AllHarmless) (rest : List Char) :
    start.readTableBody (place n ('{' :: '\n' :: (writtenBody remarks table ++ rest))) =
      ⟨entriesOf table, place (n + 2 + (writtenBody remarks table).length) rest, []⟩ := by
  have hb : Text.isBlank '\n' := by decide
  have hl : 0 < (writtenBody remarks table).length := by
    simp only [writtenBody, List.length_append, List.length_singleton]
    omega
  have hp : n + 1 + 1 + (writtenBody remarks table).length - 1 + 1 =
      n + 2 + (writtenBody remarks table).length := by
    omega
  simp only [readTableBody, peek_place_cons, next_place_cons, if_true, readTableEntries_blank _ hb,
    readTableEntries_place _ h k, hp]

theorem readTable_place (n : Nat) {table : Table} (h : ExpressibleTable table)
    {remarks : TableRemarks} (k : remarks.AllHarmless) (rest : List Char) :
    (place n ((renderTableWith remarks table).toList ++ rest)).readTable =
      ⟨some table, place (n + (renderTableWith remarks table).toList.length) rest, []⟩ := by
  have hid : table.qualifiedName.toList = table.id.toList := by rw [h.id_eq]
  have hw : (renderTableWith remarks table).toList ++ rest = "Table".toList ++
      ' ' :: (renderQualifiedNameChars table.id.toList ++
        ' ' :: '{' :: '\n' :: (writtenBody remarks table ++ rest)) := by
    simp [toList_renderTableWith, hid]
  have hl : n + (renderTableWith remarks table).toList.length = n + "Table".toList.length + 1 +
      (renderQualifiedNameChars table.id.toList).length + 1 + 2 +
        (writtenBody remarks table).length := by
    simp [toList_renderTableWith, hid]
    omega
  have hstop := stops_renderQualifiedNameChars (fun _ => isBlank_eq_false_of_opensName)
    table.id.toList (' ' :: '{' :: '\n' :: (writtenBody remarks table ++ rest))
  have hends : EndsName (' ' :: '{' :: '\n' :: (writtenBody remarks table ++ rest)) :=
    endsName_cons.2 (by decide)
  have hblank (m : Nat) (more : List Char) :
      (place m (' ' :: '{' :: more)).skipBlank = place (m + 1) ('{' :: more) :=
    skipBlank_place_space m (stops_cons.2 (by decide))
  have halias (m : Nat) (more : List Char) :
      (place m ('{' :: more)).skipAlias = place m ('{' :: more) := by
    have hk : (place m ('{' :: more)).keyword = "" := rfl
    rw [skipAlias, hk, if_neg (by decide)]
  have hsettings (m : Nat) (more : List Char) :
      (place m ('{' :: more)).skipTableSettings = ⟨(), place m ('{' :: more), []⟩ := by
    simp [skipTableSettings]
  have hne : table.name.isEmpty = false := by simpa using h.name_ne
  rw [hw, hl, readTable, skipBlank_skipKeyword_place n (by decide) hstop,
    readQualifiedName_place _ h.id_quotable hends]
  simp only [hblank, halias, hsettings, readTableBody_place _ _ h k, String.ofList_toList,
    tableOfEntries_entriesOf h, hne]
  rfl

end Cursor

end SchemaText.Diagram
