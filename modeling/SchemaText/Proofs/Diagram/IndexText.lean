import SchemaText.Diagram.Index
import SchemaText.Proofs.Diagram.ColumnText
/-! Indexes, written and read back. -/

namespace SchemaText.Diagram

def settingsOf (index : Index) : List IndexSetting :=
  (if index.unique then [.unique] else []) ++ (index.name.map IndexSetting.name).toList

def renderIndexSetting : IndexSetting → String
  | .unique => "unique"
  | .name text => "name: " ++ quote text

theorem foldl_settingsOf (index : Index) :
    (settingsOf index).foldl IndexSetting.apply { columns := index.columns } = index := by
  obtain ⟨columns, unique, name⟩ := index
  cases unique <;> cases name <;> rfl

def IndexSetting.Expressible : IndexSetting → Prop
  | .unique => True
  | .name text => Quotable text.toList

theorem expressible_of_mem_settingsOf {index : Index} (h : ExpressibleIndex index)
    {s : IndexSetting} (hs : s ∈ settingsOf index) : s.Expressible := by
  cases s with
  | unique => trivial
  | name text =>
    refine h.name_quotable text ?_
    simpa [settingsOf] using hs

theorem exists_renderIndexSetting_eq_cons (s : IndexSetting) :
    ∃ ch tail, (renderIndexSetting s).toList = ch :: tail ∧ isPlain ch := by
  cases s with
  | unique => exact ⟨_, _, rfl, rfl⟩
  | name text =>
    exact ⟨'n', "ame: ".toList ++ (quote text).toList, by simp [renderIndexSetting], rfl⟩

def writtenNames (names : List (List Char)) : List Char :=
  names.flatMap fun name => ',' :: ' ' :: renderNameChars name

theorem toList_renderIndexColumns (name : String) (names : List String) :
    (renderIndexColumns (name :: names)).toList =
      if names = [] then renderNameChars name.toList
      else '(' :: (renderNameChars name.toList ++
        (writtenNames (names.map String.toList) ++ [')'])) := by
  cases names with
  | nil => simp [renderIndexColumns, renderName]
  | cons next names =>
    simp [renderIndexColumns, Text.intercalate_cons, writtenNames, List.flatMap_map,
      toList_renderName]

def indexEntry (index : Index) : List Char :=
  (renderIndexColumns index.columns).toList ++
    (renderSettings ((settingsOf index).map renderIndexSetting)).toList

theorem toList_renderIndex (index : Index) :
    (renderIndex index).toList = ' ' :: ' ' :: ' ' :: ' ' :: indexEntry index := by
  obtain ⟨columns, unique, name⟩ := index
  cases unique <;> cases name <;> simp [renderIndex, indexEntry, settingsOf, renderIndexSetting]

def writtenIndexes (lines : List (Index × Option String)) : List Char :=
  lines.flatMap fun line => (renderIndex line.1).toList ++ (remarkChars line.2 ++ ['\n'])

def writtenSettings (settings : List IndexSetting) : List Char :=
  settings.flatMap fun s => ',' :: ' ' :: (renderIndexSetting s).toList

namespace Cursor

theorem readIndexSetting_place (n : Nat) {s : IndexSetting} (h : s.Expressible) {ch : Char}
    (k : ch = ',' ∨ ch = ']') (rest : List Char) :
    (place n ((renderIndexSetting s).toList ++ ch :: rest)).readIndexSetting =
      (some s,
        (place (n + (renderIndexSetting s).toList.length) (ch :: rest)).skipBlank.eat ',') := by
  have hend : ch ∈ [',', ']', ')'] := by
    rcases k with rfl | rfl <;> decide
  obtain ⟨hb, hm⟩ := stops_isBare_of_mem hend rest
  cases s with
  | unique =>
    have hr := readName_bare n (List.all_eq_true.1 (by decide : "unique".toList.all isBare)) hb hm
    simp only [renderIndexSetting, readIndexSetting, hr]
    rfl
  | name text =>
    have ht : (renderIndexSetting (.name text)).toList ++ ch :: rest =
        "name".toList ++ (':' :: ' ' :: (quoteChars text.toList ++ ch :: rest)) := by
      simp [renderIndexSetting, toList_quote]
    have hl : n + (renderIndexSetting (.name text)).toList.length =
        n + "name".toList.length + 2 + (quoteChars text.toList).length := by
      simp [renderIndexSetting, toList_quote]
      omega
    have hs := stops_isBlank_quoteChars text.toList (ch :: rest)
    have hr := readName_bare n (List.all_eq_true.1 (by decide : "name".toList.all isBare))
      (stops_cons.2 (by decide) :
        Stops isBare (':' :: ' ' :: (quoteChars text.toList ++ ch :: rest)))
      (stops_cons.2 (by decide))
    rw [ht, hl]
    simp only [readIndexSetting, hr]
    simp only [readIndexSettingAfter,
      show String.ofList (Text.lower "name".toList) = "name" from rfl,
      skipOptional_place_colon _ hs, readValue_quoteChars _ h, String.ofList_toList]
    rfl

theorem readIndexSettings_of_isPlain (n : Nat) {ch : Char} (h : isPlain ch) (rest : List Char) :
    (place n (ch :: rest)).readIndexSettings =
      let setting := (place n (ch :: rest)).readIndexSetting
      let settings := setting.2.readIndexSettings
      (setting.1.toList ++ settings.1, settings.2) := by
  have hb : (place n (ch :: rest)).skipBlank = place n (ch :: rest) :=
    skipBlank_place_of_stops n (by simpa using isBlank_eq_false_of_isPlain h)
  have hc : ch ≠ ']' := by
    rintro rfl
    exact absurd h (by decide)
  have hn : ch ≠ '\n' := by
    rintro rfl
    exact absurd h (by decide)
  rw [readIndexSettings, hb]
  simp [hc, hn]

theorem readIndexSettings_blank (n : Nat) {ch : Char} (h : isPlain ch) (rest : List Char) :
    (place n (' ' :: ch :: rest)).readIndexSettings =
      (place (n + 1) (ch :: rest)).readIndexSettings := by
  have hs : Stops Text.isBlank (ch :: rest) := by simpa using isBlank_eq_false_of_isPlain h
  have hb : (place n (' ' :: ch :: rest)).skipBlank = place (n + 1) (ch :: rest) := by
    rw [skipBlank_place_cons _ (by decide), skipBlank_place_of_stops _ hs]
  have hc : ch ≠ ']' := by
    rintro rfl
    exact absurd h (by decide)
  rw [readIndexSettings_of_isPlain _ h, readIndexSettings, hb]
  simp [hc]

theorem readIndexSettings_last (n : Nat) {s : IndexSetting} (h : s.Expressible)
    (rest : List Char) :
    (place n ((renderIndexSetting s).toList ++ ']' :: rest)).readIndexSettings =
      ([s], place (n + (renderIndexSetting s).toList.length) (']' :: rest)) := by
  obtain ⟨ch, tail, hc, hp⟩ := exists_renderIndexSetting_eq_cons s
  have hr := readIndexSetting_place n h (.inr rfl) rest
  have hb (m : Nat) : ((place m (']' :: rest)).skipBlank).eat ',' = place m (']' :: rest) := by
    rw [skipBlank_place_of_stops m (stops_cons.2 (by decide))]
    simp [eat]
  have he (m : Nat) : (place m (']' :: rest)).readIndexSettings = ([], place m (']' :: rest)) := by
    rw [readIndexSettings]
    simp
  rw [hc, List.cons_append] at hr ⊢
  rw [readIndexSettings_of_isPlain n hp, hr, hb]
  simp only [he, Option.toList_some, List.append_nil]

theorem readIndexSettings_next (n : Nat) {s : IndexSetting} (h : s.Expressible) {ch : Char}
    (hp : isPlain ch) (rest : List Char) :
    (place n ((renderIndexSetting s).toList ++ ',' :: ' ' :: ch :: rest)).readIndexSettings =
      let settings :=
        (place (n + (renderIndexSetting s).toList.length + 2) (ch :: rest)).readIndexSettings
      (s :: settings.1, settings.2) := by
  obtain ⟨first, tail, hc, hf⟩ := exists_renderIndexSetting_eq_cons s
  have hr := readIndexSetting_place n h (.inl rfl) (' ' :: ch :: rest)
  have hb (m : Nat) : ((place m (',' :: ' ' :: ch :: rest)).skipBlank).eat ',' =
      place (m + 1) (' ' :: ch :: rest) := by
    rw [skipBlank_place_of_stops m (stops_cons.2 (by decide)), eat_place_cons]
  rw [hb] at hr
  generalize n + (renderIndexSetting s).toList.length = m at hr ⊢
  rw [hc, List.cons_append] at hr ⊢
  rw [readIndexSettings_of_isPlain n hf, hr]
  simp only [readIndexSettings_blank _ hp, Option.toList_some, List.cons_append, List.nil_append]

theorem readsList_settings (rest : List Char) :
    ReadsList IndexSetting.Expressible (fun s => (renderIndexSetting s).toList) readIndexSettings
      Prod.mk (']' :: rest) fun n => place n (']' :: rest) where
  last n _ h := readIndexSettings_last n h rest
  next n s t rest settings c h k := by
    obtain ⟨ch, tail, hc, hp⟩ := exists_renderIndexSetting_eq_cons t
    rw [hc, List.cons_append] at k ⊢
    rw [readIndexSettings_next n h hp, k]

theorem readIndexSettings_place (n : Nat) {s : IndexSetting} {settings : List IndexSetting}
    (h : ∀ t ∈ s :: settings, t.Expressible) (rest : List Char) :
    (place n ((renderIndexSetting s).toList ++
        (writtenSettings settings ++ ']' :: rest))).readIndexSettings =
      (s :: settings,
        place (n + ((renderIndexSetting s).toList ++ writtenSettings settings).length)
          (']' :: rest)) :=
  (readsList_settings rest).read_place n h

theorem readIndexTail_renderSettings (n : Nat) {settings : List IndexSetting}
    (h : ∀ s ∈ settings, s.Expressible) {remark : Option String} (k : Harmless remark)
    (rest : List Char) :
    ∃ next, (place n ((renderSettings (settings.map renderIndexSetting)).toList ++
        (remarkChars remark ++ '\n' :: rest))).skipInline.readIndexTail = (settings, next) ∧
      next.skipEntry =
        place (n + ((renderSettings (settings.map renderIndexSetting)).toList ++
          remarkChars remark).length + 1) rest := by
  cases settings with
  | nil =>
    obtain ⟨hp, hs⟩ := skipInline_place_remark k n rest
    refine ⟨(place n (remarkChars remark ++ '\n' :: rest)).skipInline, ?_, ?_⟩
    · simp [renderSettings, readIndexTail, hp]
    · simpa [renderSettings] using hs
  | cons s settings =>
    have hw : (renderSettings ((s :: settings).map renderIndexSetting)).toList =
        ' ' :: '[' :: ((renderIndexSetting s).toList ++ (writtenSettings settings ++ [']'])) := by
      simp [renderSettings, Text.intercalate_cons, writtenSettings, List.flatMap_map]
    have hs (more : List Char) : (place n (' ' :: '[' :: more)).skipInline =
        place (n + 1) ('[' :: more) := by
      rw [skipInline_place_cons, skipInline, skipWhile_place_of_stops _ (by simp)]
    refine ⟨place (n + 1 + 1 + ((renderIndexSetting s).toList ++ writtenSettings settings).length
      + 1) (remarkChars remark ++ '\n' :: rest), ?_, ?_⟩
    · rw [hw]
      simp only [List.cons_append, List.append_assoc, List.nil_append, hs, readIndexTail,
        peek_place_cons, if_true, next_place_cons, readIndexSettings_place _ h, eat_place_cons]
    · rw [skipEntry_place_remark k, hw]
      congr 1
      simp only [List.length_cons, List.length_append, List.length_nil]
      omega

theorem readListItem_place (n : Nat) {name : List Char} (h : Quotable name) {ch : Char}
    (k : ch = ',' ∨ ch = ')') (rest : List Char) :
    (place n (renderNameChars name ++ ch :: rest)).readListItem =
      (name, (place (n + (renderNameChars name).length) (ch :: rest)).eat ',') := by
  have hend : ch ∈ [',', ']', ')'] := by
    rcases k with rfl | rfl <;> decide
  obtain ⟨hb, hm⟩ := stops_isBare_of_mem hend rest
  have hs : Stops (fun c => decide (c ≠ ',') && decide (c ≠ ')') && decide (c ≠ '\n'))
      (ch :: rest) := by
    rcases k with rfl | rfl <;> simp
  have hi : Stops Text.isBlank (renderNameChars name ++ ch :: rest) :=
    stops_renderNameChars (fun _ => isBlank_eq_false_of_opensName) _ _
  simp only [readListItem, skipInline_place_of_stops n hi, readName_renderNameChars n h hb hm,
    skipWhile_place_of_stops _ hs]

theorem readListItems_of_opensName (n : Nat) {ch : Char} (h : opensName ch) (rest : List Char) :
    (place n (ch :: rest)).readListItems =
      let item := (place n (ch :: rest)).readListItem
      let items := item.2.readListItems
      (if item.1 = [] then items.1 else item.1 :: items.1, items.2) := by
  have hc : ch ≠ ')' := by
    rintro rfl
    exact absurd h (by decide)
  have hn : ch ≠ '\n' := by
    rintro rfl
    exact absurd h (by decide)
  rw [readListItems]
  simp [hc, hn]

theorem readListItems_blank (n : Nat) {ch : Char} (h : opensName ch) (rest : List Char) :
    (place n (' ' :: ch :: rest)).readListItems = (place (n + 1) (ch :: rest)).readListItems := by
  have hs : Stops Text.isBlank (ch :: rest) := by simpa using isBlank_eq_false_of_opensName h
  have hi : (place n (' ' :: ch :: rest)).readListItem =
      (place (n + 1) (ch :: rest)).readListItem := by
    simp only [readListItem, skipInline_place_cons]
  rw [readListItems_of_opensName _ h, readListItems]
  simp [hi]

theorem readListItems_last (n : Nat) {name : List Char} (h : Quotable name) (hn : name ≠ [])
    (rest : List Char) :
    (place n (renderNameChars name ++ ')' :: rest)).readListItems =
      ([name], place (n + (renderNameChars name).length + 1) rest) := by
  obtain ⟨ch, tail, hc, hp⟩ := exists_renderNameChars_eq_cons name
  have hr := readListItem_place n h (.inr rfl) rest
  have hb (m : Nat) : (place m (')' :: rest)).eat ',' = place m (')' :: rest) := by
    simp [eat]
  have he (m : Nat) : (place m (')' :: rest)).readListItems = ([], place (m + 1) rest) := by
    rw [readListItems]
    simp
  generalize n + (renderNameChars name).length = m at hr ⊢
  rw [hc, List.cons_append] at hr ⊢
  rw [readListItems_of_opensName n hp, hr, hb]
  simp only [hn, if_false, he]

theorem readListItems_next (n : Nat) {name : List Char} (h : Quotable name) (hn : name ≠ [])
    {ch : Char} (ho : opensName ch) (rest : List Char) :
    (place n (renderNameChars name ++ ',' :: ' ' :: ch :: rest)).readListItems =
      let items := (place (n + (renderNameChars name).length + 2) (ch :: rest)).readListItems
      (name :: items.1, items.2) := by
  obtain ⟨first, tail, hc, hf⟩ := exists_renderNameChars_eq_cons name
  have hr := readListItem_place n h (.inl rfl) (' ' :: ch :: rest)
  rw [eat_place_cons] at hr
  generalize n + (renderNameChars name).length = m at hr ⊢
  rw [hc, List.cons_append] at hr ⊢
  rw [readListItems_of_opensName n hf, hr]
  simp only [hn, if_false, readListItems_blank _ ho]

theorem readsList_names (rest : List Char) :
    ReadsList (fun name => Quotable name ∧ name ≠ []) renderNameChars readListItems
      Prod.mk (')' :: rest) fun n => place (n + 1) rest where
  last n _ h := readListItems_last n h.1 h.2 rest
  next n name following rest names c h k := by
    obtain ⟨ch, tail, hc, ho⟩ := exists_renderNameChars_eq_cons following
    rw [hc, List.cons_append] at k ⊢
    rw [readListItems_next n h.1 h.2 ho, k]

theorem readListItems_place (n : Nat) {name : List Char} {names : List (List Char)}
    (h : ∀ m ∈ name :: names, Quotable m ∧ m ≠ []) (rest : List Char) :
    (place n (renderNameChars name ++ (writtenNames names ++ ')' :: rest))).readListItems =
      (name :: names,
        place (n + (renderNameChars name ++ writtenNames names).length + 1) rest) :=
  (readsList_names rest).read_place n h

end Cursor

theorem exists_indexEntry_eq_cons {index : Index} (h : index.columns ≠ []) :
    ∃ ch tail, indexEntry index = ch :: tail ∧ (opensName ch ∨ ch = '(') := by
  obtain ⟨name, names, hn⟩ := List.exists_cons_of_ne_nil h
  obtain ⟨ch, tail, hc, ho⟩ := exists_renderNameChars_eq_cons name.toList
  rw [indexEntry, hn, toList_renderIndexColumns]
  split
  · exact ⟨ch, _, by rw [hc, List.cons_append], .inl ho⟩
  · exact ⟨'(', _, by rw [List.cons_append], .inr rfl⟩

namespace Cursor

theorem readIndexColumns_place (n : Nat) {columns : List String} (hn : columns ≠ [])
    (h : ∀ column ∈ columns, Quotable column.toList ∧ column ≠ "") {rest : List Char}
    (k : EndsName rest) :
    (place n ((renderIndexColumns columns).toList ++ rest)).readIndexColumns =
      (columns.map String.toList, place (n + (renderIndexColumns columns).toList.length) rest) := by
  obtain ⟨name, names, rfl⟩ := List.exists_cons_of_ne_nil hn
  obtain ⟨hq, he⟩ := h name (by simp)
  rw [toList_renderIndexColumns]
  -- A single name stands without parentheses.
  split
  · next hs =>
    have hp : (place n (renderNameChars name.toList ++ rest)).peek ≠ some '(' := by
      obtain ⟨ch, tail, hc, ho⟩ := exists_renderNameChars_eq_cons name.toList
      rw [hc, List.cons_append, peek_place_cons]
      rintro ⟨⟩
      exact absurd ho (by decide)
    rw [readIndexColumns, if_neg hp, readName_renderNameChars n hq k.stops_isBare k.stops_isMark]
    simp [he, hs]
  · have hm : ∀ m ∈ name.toList :: names.map String.toList, Quotable m ∧ m ≠ [] := by
      simpa using h
    have hr := readListItems_place (n + 1) hm rest
    have hl : n + ('(' :: (renderNameChars name.toList ++
        (writtenNames (names.map String.toList) ++ [')']))).length =
        n + 1 + (renderNameChars name.toList ++
          writtenNames (names.map String.toList)).length + 1 := by
      simp
      omega
    rw [hl, readIndexColumns]
    simpa [readNameList] using hr

section Entries

variable {index : Index} (h : ExpressibleIndex index) {remark : Option String}
  (k : Harmless remark)
include h k

theorem readIndex_place (n : Nat) (rest : List Char) :
    (place n (indexEntry index ++ (remarkChars remark ++ '\n' :: rest))).readIndex =
      ⟨some index, place (n + (indexEntry index ++ remarkChars remark).length + 1) rest, []⟩ := by
  have hs : ∀ s ∈ settingsOf index, s.Expressible := fun s => expressible_of_mem_settingsOf h
  have hc := fun column hm => And.intro (h.column_quotable column hm) (h.column_ne column hm)
  have hm : index.columns.map String.toList ≠ [] := by simpa using h.columns_ne
  have hi : (index.columns.map String.toList).map String.ofList = index.columns := by
    simp [Function.comp_def]
  obtain ⟨next, ht, hnext⟩ := readIndexTail_renderSettings
    (n + (renderIndexColumns index.columns).toList.length) hs k rest
  rw [indexEntry, List.append_assoc, List.append_assoc, List.length_append, ← Nat.add_assoc,
    readIndex, readIndexColumns_place n h.columns_ne hc (endsName_renderSettings _ _ _)]
  simp only [hm, if_false, ht, hnext, hi, foldl_settingsOf]

theorem readIndexEntry_place (n : Nat) (rest : List Char) :
    (place n (indexEntry index ++ (remarkChars remark ++ '\n' :: rest))).readIndexEntry =
      ⟨some index, place (n + (indexEntry index ++ remarkChars remark).length + 1) rest, []⟩ := by
  obtain ⟨ch, tail, hc, ho⟩ := exists_indexEntry_eq_cons h.columns_ne
  have hs : ch ≠ '/' := by
    rintro rfl
    exact absurd ho (by decide)
  have hi : (place n (indexEntry index ++ (remarkChars remark ++ '\n' :: rest))).isComment =
      false := by
    rw [hc, List.cons_append, isComment_place_cons n hs]
  rw [readIndexEntry, hi, readIndex_place h k]
  rfl

theorem readIndexEntries_next (n : Nat) (rest : List Char) :
    (place n (indexEntry index ++ (remarkChars remark ++ '\n' :: rest))).readIndexEntries =
      let entries :=
        (place (n + (indexEntry index ++ remarkChars remark).length + 1) rest).readIndexEntries
      ⟨index :: entries.value, entries.next, entries.diagnostics⟩ := by
  have hr := readIndexEntry_place h k n rest
  obtain ⟨ch, tail, hc, ho⟩ := exists_indexEntry_eq_cons h.columns_ne
  have hb : Text.isBlank ch = false := by
    rcases ho with ho | rfl
    · exact isBlank_eq_false_of_opensName ho
    · rfl
  have hs : ch ≠ '}' := by
    rintro rfl
    exact absurd ho (by decide)
  generalize n + (indexEntry index ++ remarkChars remark).length + 1 = m at hr ⊢
  rw [hc, List.cons_append] at hr ⊢
  rw [readIndexEntries, skipBlank_place_of_stops n (stops_cons.2 hb), hr]
  simp [hs]

end Entries

theorem readIndexEntries_blank (n : Nat) {ch : Char} (h : Text.isBlank ch) (rest : List Char) :
    (place n (ch :: rest)).readIndexEntries = (place (n + 1) rest).readIndexEntries := by
  -- The reader unfolds to itself, so each side is opened on its own.
  have hb := skipBlank_place_cons n h rest
  cases rest with
  | nil =>
    have hn : (place (n + 1) []).skipBlank = place (n + 1) [] :=
      skipBlank_place_of_stops _ (stops_nil _)
    rw [readIndexEntries, readIndexEntries, hb, hn]
    simp [stopsAt]
  | cons ch' rest =>
    conv => lhs; rw [readIndexEntries, hb]
    conv => rhs; rw [readIndexEntries]
    simp

theorem readIndexEntries_place (n : Nat) {lines : List (Index × Option String)}
    (h : ∀ line ∈ lines, ExpressibleIndex line.1) (k : ∀ line ∈ lines, Harmless line.2)
    (rest : List Char) :
    (place n (writtenIndexes lines ++ ' ' :: ' ' :: '}' :: rest)).readIndexEntries =
      ⟨lines.map Prod.fst, place (n + (writtenIndexes lines).length + 2) ('}' :: rest), []⟩ := by
  have hs : Text.isBlank ' ' := by decide
  induction lines generalizing n with
  | nil =>
    have he (m : Nat) :
        (place m ('}' :: rest)).readIndexEntries = ⟨[], place m ('}' :: rest), []⟩ := by
      rw [readIndexEntries, skipBlank_place_of_stops m (stops_cons.2 (by decide))]
      simp
    simp only [writtenIndexes, List.flatMap_nil, List.nil_append, readIndexEntries_blank _ hs, he]
    simp
  | cons line lines ih =>
    have hw : writtenIndexes (line :: lines) ++ ' ' :: ' ' :: '}' :: rest =
        ' ' :: ' ' :: ' ' :: ' ' :: (indexEntry line.1 ++ (remarkChars line.2 ++ '\n' ::
          (writtenIndexes lines ++ ' ' :: ' ' :: '}' :: rest))) := by
      simp [writtenIndexes, toList_renderIndex]
    have hl : n + (writtenIndexes (line :: lines)).length + 2 =
        n + 1 + 1 + 1 + 1 + (indexEntry line.1 ++ remarkChars line.2).length + 1 +
          (writtenIndexes lines).length + 2 := by
      simp [writtenIndexes, toList_renderIndex]
      omega
    rw [hw, hl]
    simp only [readIndexEntries_blank _ hs,
      readIndexEntries_next (h line (by simp)) (k line (by simp)),
      ih _ (fun l hl => h l (by simp [hl])) fun l hl => k l (by simp [hl]), List.map_cons]

end Cursor

end SchemaText.Diagram
