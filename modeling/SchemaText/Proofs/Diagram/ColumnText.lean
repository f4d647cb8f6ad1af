import SchemaText.Diagram.Column
import SchemaText.Proofs.Diagram.Remark
import SchemaText.Proofs.Diagram.ValueText
/-! Columns, written and read back. -/

namespace SchemaText.Diagram

def attributesOf (column : Column) : List Attribute :=
  (if column.primaryKey then [.primaryKey] else []) ++
  (if column.notNull then [.notNull] else []) ++
  (if column.unique then [.unique] else []) ++
  (if column.autoIncrement then [.autoIncrement] else []) ++
  (column.default.map Attribute.default).toList ++ (column.note.map Attribute.note).toList

def renderAttribute : Attribute → String
  | .primaryKey => "pk"
  | .notNull => "not null"
  | .unique => "unique"
  | .autoIncrement => "increment"
  | .default value => "default: " ++ renderValue value
  | .note text => "note: " ++ quote text

theorem renderAttributes_eq (column : Column) :
    renderAttributes column = (attributesOf column).map renderAttribute := by
  unfold renderAttributes attributesOf
  simp only [List.map_append, apply_ite (List.map renderAttribute), List.map_cons, List.map_nil]
  cases column.default <;> cases column.note <;> rfl

theorem foldl_attributesOf (column : Column) :
    (attributesOf column).foldl Attribute.apply { name := column.name, type := column.type } =
      column := by
  obtain ⟨name, type, primaryKey, notNull, unique, autoIncrement, default, note⟩ := column
  cases primaryKey <;> cases notNull <;> cases unique <;> cases autoIncrement <;>
    cases default <;> cases note <;> rfl

def Attribute.Expressible : Attribute → Prop
  | .default value => needsQuotes value.toList → Quotable value.toList
  | .note text => Quotable text.toList
  | _ => True

theorem expressible_of_mem_attributesOf {column : Column} (h : ExpressibleColumn column)
    {a : Attribute} (ha : a ∈ attributesOf column) : a.Expressible := by
  cases a with
  | default value =>
    refine h.default_quotable value ?_
    simpa [attributesOf] using ha
  | note text =>
    refine h.note_quotable text ?_
    simpa [attributesOf] using ha
  | _ => trivial

namespace Cursor

theorem stops_isBlank_renderValue (value : String) (rest : List Char) :
    Stops Text.isBlank ((renderValue value).toList ++ rest) := by
  rw [toList_renderValue]
  split
  · exact stops_isBlank_quoteChars _ rest
  · next hq =>
    obtain ⟨hn, ht, -⟩ := needsQuotes_eq_false_iff.1 (Bool.eq_false_iff.2 hq)
    obtain ⟨first, tail, hc⟩ := List.exists_cons_of_ne_nil hn
    simpa [hc] using Text.isBlank_head_trim (ht.trans hc)

theorem readAttribute_of_word (n : Nat) {word : String} {rest : List Char}
    (h : word.toList.all isBare) (hn : word.toList ≠ []) (k : Stops isBare rest)
    (m : Stops isMark rest) :
    (place n (word.toList ++ rest)).readAttribute =
      let step := (place n (word.toList ++ rest)).readAttributeAfter word.toList
        (place (n + word.toList.length) rest)
      ⟨step.value, step.next.skipBlank.eat ',', step.diagnostics⟩ := by
  simp only [readAttribute, readName_bare n (List.all_eq_true.1 h) k m, hn, if_false]

theorem readAttribute_notNull (n : Nat) {rest : List Char} (k : Stops isBare rest)
    (hmark : Stops isMark rest) :
    (place n ((renderAttribute .notNull).toList ++ rest)).readAttribute =
      ⟨some .notNull,
        (place (n + (renderAttribute .notNull).toList.length) rest).skipBlank.eat ',', []⟩ := by
  have ht : (renderAttribute .notNull).toList ++ rest =
      "not".toList ++ (' ' :: ("null".toList ++ rest)) := rfl
  have hs (m : Nat) : (place m (' ' :: ("null".toList ++ rest))).skipBlank.readName =
      ("null".toList, place (m + 1 + "null".toList.length) rest) := by
    have hn : Stops Text.isBlank ("null".toList ++ rest) := stops_cons.2 (by decide)
    rw [skipBlank_place_cons _ (by decide), skipBlank_place_of_stops _ hn,
      readName_bare _ (List.all_eq_true.1 (by decide : "null".toList.all isBare)) k hmark]
  rw [ht, readAttribute_of_word n (by decide) (by decide) (by simp [isBare]) (by simp [isMark])]
  simp only [readAttributeAfter, show AttributeWord.ofName "not".toList = .not from rfl, hs,
    show String.ofList (Text.lower "null".toList) = "null" from rfl, if_true]
  rfl

theorem readAttribute_default (n : Nat) {value : String}
    (h : needsQuotes value.toList → Quotable value.toList) {ch : Char} (k : ch = ',' ∨ ch = ']')
    (rest : List Char) :
    (place n ((renderAttribute (.default value)).toList ++ ch :: rest)).readAttribute =
      ⟨some (.default value), (place (n + (renderAttribute (.default value)).toList.length)
        (ch :: rest)).skipBlank.eat ',', []⟩ := by
  have ht : (renderAttribute (.default value)).toList ++ ch :: rest =
      "default".toList ++ (':' :: ' ' :: ((renderValue value).toList ++ ch :: rest)) := by
    simp [renderAttribute]
  have hl : n + (renderAttribute (.default value)).toList.length =
      n + "default".toList.length + 2 + (renderValue value).toList.length := by
    simp [renderAttribute]
    omega
  rw [ht, hl, readAttribute_of_word n (by decide) (by decide) (by simp [isBare])
    (by simp [isMark])]
  simp only [readAttributeAfter, show AttributeWord.ofName "default".toList = .default from rfl,
    skipOptional_place_colon _ (stops_isBlank_renderValue value _),
    readValue_renderValue _ h k, String.ofList_toList]

theorem readAttribute_note (n : Nat) {text : String} (h : Quotable text.toList)
    (rest : List Char) :
    (place n ((renderAttribute (.note text)).toList ++ rest)).readAttribute =
      ⟨some (.note text),
        (place (n + (renderAttribute (.note text)).toList.length) rest).skipBlank.eat ',', []⟩ := by
  have ht : (renderAttribute (.note text)).toList ++ rest =
      "note".toList ++ (':' :: ' ' :: (quoteChars text.toList ++ rest)) := by
    simp [renderAttribute, toList_quote]
  have hl : n + (renderAttribute (.note text)).toList.length =
      n + "note".toList.length + 2 + (quoteChars text.toList).length := by
    simp [renderAttribute, toList_quote]
    omega
  rw [ht, hl, readAttribute_of_word n (by decide) (by decide) (by simp [isBare])
    (by simp [isMark])]
  simp only [readAttributeAfter, show AttributeWord.ofName "note".toList = .note from rfl,
    skipOptional_place_colon _ (stops_isBlank_quoteChars _ rest), readValue_quoteChars _ h,
    String.ofList_toList]

theorem readAttribute_place (n : Nat) {a : Attribute} (h : a.Expressible) {ch : Char}
    (k : ch = ',' ∨ ch = ']') (rest : List Char) :
    (place n ((renderAttribute a).toList ++ ch :: rest)).readAttribute =
      ⟨some a, (place (n + (renderAttribute a).toList.length) (ch :: rest)).skipBlank.eat ',',
        []⟩ := by
  have hend : ch ∈ [',', ']', ')'] := by
    rcases k with rfl | rfl <;> decide
  obtain ⟨hb, hm⟩ := stops_isBare_of_mem hend rest
  cases a with
  | primaryKey => exact readAttribute_of_word n (by decide : "pk".toList.all _) (by decide) hb hm
  | unique => exact readAttribute_of_word n (by decide : "unique".toList.all _) (by decide) hb hm
  | autoIncrement =>
    exact readAttribute_of_word n (by decide : "increment".toList.all _) (by decide) hb hm
  | notNull => exact readAttribute_notNull n hb hm
  | default value => exact readAttribute_default n h k rest
  | note text => exact readAttribute_note n h (ch :: rest)

def writtenAttributes (attributes : List Attribute) : List Char :=
  attributes.flatMap fun a => ',' :: ' ' :: (renderAttribute a).toList

theorem exists_renderAttribute_eq_cons (a : Attribute) :
    ∃ ch tail, (renderAttribute a).toList = ch :: tail ∧ isPlain ch := by
  cases a with
  | default value =>
    exact ⟨'d', "efault: ".toList ++ (renderValue value).toList, by simp [renderAttribute], rfl⟩
  | note text => exact ⟨'n', "ote: ".toList ++ (quote text).toList, by simp [renderAttribute], rfl⟩
  | _ => exact ⟨_, _, rfl, rfl⟩

theorem readAttributes_of_isPlain (n : Nat) {ch : Char} (h : isPlain ch) (rest : List Char) :
    (place n (ch :: rest)).readAttributes =
      let entry := (place n (ch :: rest)).readAttribute
      let entries := entry.next.readAttributes
      ⟨entry.value.toList ++ entries.value, entries.next,
        entry.diagnostics ++ entries.diagnostics⟩ := by
  have hb : (place n (ch :: rest)).skipBlank = place n (ch :: rest) :=
    skipBlank_place_of_stops n (by simpa using isBlank_eq_false_of_isPlain h)
  have hs : (place n (ch :: rest)).stopsAt ']' = false := by
    rw [stopsAt_place_cons, beq_eq_false_iff_ne]
    rintro rfl
    exact absurd h (by decide)
  rw [readAttributes, hb]
  simp [hs]

theorem readAttributes_blank (n : Nat) {ch : Char} (h : isPlain ch) (rest : List Char) :
    (place n (' ' :: ch :: rest)).readAttributes = (place (n + 1) (ch :: rest)).readAttributes := by
  have hs : Stops Text.isBlank (ch :: rest) := by simpa using isBlank_eq_false_of_isPlain h
  have hb : (place n (' ' :: ch :: rest)).skipBlank = place (n + 1) (ch :: rest) := by
    rw [skipBlank_place_cons _ (by decide), skipBlank_place_of_stops _ hs]
  have hn : (place (n + 1) (ch :: rest)).stopsAt ']' = false := by
    rw [stopsAt_place_cons, beq_eq_false_iff_ne]
    rintro rfl
    exact absurd h (by decide)
  rw [readAttributes_of_isPlain _ h, readAttributes, hb]
  simp [hn]

theorem readAttributes_last (n : Nat) {a : Attribute} (h : a.Expressible) (rest : List Char) :
    (place n ((renderAttribute a).toList ++ ']' :: rest)).readAttributes =
      ⟨[a], place (n + (renderAttribute a).toList.length) (']' :: rest), []⟩ := by
  obtain ⟨ch, tail, hc, hp⟩ := exists_renderAttribute_eq_cons a
  have hr := readAttribute_place n h (.inr rfl) rest
  have hb (m : Nat) : ((place m (']' :: rest)).skipBlank).eat ',' = place m (']' :: rest) := by
    rw [skipBlank_place_of_stops m (stops_cons.2 (by decide))]
    simp [eat]
  have he (m : Nat) : (place m (']' :: rest)).readAttributes = ⟨[], place m (']' :: rest), []⟩ := by
    rw [readAttributes]
    simp
  -- The reader goes by the first character, which is hidden in the written attribute.
  rw [hc, List.cons_append] at hr ⊢
  rw [readAttributes_of_isPlain n hp, hr, hb]
  simp only [he, Option.toList_some, List.append_nil]

theorem readAttributes_next (n : Nat) {a : Attribute} (h : a.Expressible) {ch : Char}
    (hp : isPlain ch) (rest : List Char) :
    (place n ((renderAttribute a).toList ++ ',' :: ' ' :: ch :: rest)).readAttributes =
      let entries := (place (n + (renderAttribute a).toList.length + 2) (ch :: rest)).readAttributes
      ⟨a :: entries.value, entries.next, entries.diagnostics⟩ := by
  obtain ⟨first, tail, hc, hf⟩ := exists_renderAttribute_eq_cons a
  have hr := readAttribute_place n h (.inl rfl) (' ' :: ch :: rest)
  have hb (m : Nat) : ((place m (',' :: ' ' :: ch :: rest)).skipBlank).eat ',' =
      place (m + 1) (' ' :: ch :: rest) := by
    rw [skipBlank_place_of_stops m (stops_cons.2 (by decide)), eat_place_cons]
  rw [hb] at hr
  generalize n + (renderAttribute a).toList.length = m at hr ⊢
  rw [hc, List.cons_append] at hr ⊢
  rw [readAttributes_of_isPlain n hf, hr]
  simp only [readAttributes_blank _ hp, Option.toList_some, List.cons_append, List.nil_append]

theorem readsList_attributes (rest : List Char) :
    ReadsList Attribute.Expressible (fun a => (renderAttribute a).toList) readAttributes
      (fun attributes c => ⟨attributes, c, []⟩) (']' :: rest) fun n => place n (']' :: rest) where
  last n _ h := readAttributes_last n h rest
  next n a b rest attributes c h k := by
    obtain ⟨ch, tail, hc, hp⟩ := exists_renderAttribute_eq_cons b
    rw [hc, List.cons_append] at k ⊢
    rw [readAttributes_next n h hp, k]

theorem readAttributes_place (n : Nat) {a : Attribute} {attributes : List Attribute}
    (h : ∀ b ∈ a :: attributes, b.Expressible) (rest : List Char) :
    (place n ((renderAttribute a).toList ++
        (writtenAttributes attributes ++ ']' :: rest))).readAttributes =
      ⟨a :: attributes,
        place (n + ((renderAttribute a).toList ++ writtenAttributes attributes).length)
          (']' :: rest), []⟩ :=
  (readsList_attributes rest).read_place n h

theorem readColumnTail_renderSettings (n : Nat) {attributes : List Attribute}
    (h : ∀ a ∈ attributes, a.Expressible) {remark : Option String} (k : Harmless remark)
    (rest : List Char) :
    ∃ next, (place n ((renderSettings (attributes.map renderAttribute)).toList ++
        (remarkChars remark ++ '\n' :: rest))).skipInline.readColumnTail =
          ⟨attributes, next, []⟩ ∧
      next.skipEntry =
        place (n + ((renderSettings (attributes.map renderAttribute)).toList ++
          remarkChars remark).length + 1) rest := by
  cases attributes with
  | nil =>
    obtain ⟨hp, hs⟩ := skipInline_place_remark k n rest
    refine ⟨(place n (remarkChars remark ++ '\n' :: rest)).skipInline, ?_, ?_⟩
    · simp [renderSettings, readColumnTail, hp]
    · simpa [renderSettings] using hs
  | cons a attributes =>
    have hw : (renderSettings ((a :: attributes).map renderAttribute)).toList =
        ' ' :: '[' :: ((renderAttribute a).toList ++ (writtenAttributes attributes ++ [']'])) := by
      simp [renderSettings, Text.intercalate_cons, writtenAttributes, List.flatMap_map]
    have hs (more : List Char) : (place n (' ' :: '[' :: more)).skipInline =
        place (n + 1) ('[' :: more) := by
      rw [skipInline_place_cons, skipInline, skipWhile_place_of_stops _ (by simp)]
    refine ⟨place (n + 1 + 1 + ((renderAttribute a).toList ++ writtenAttributes attributes).length
      + 1) (remarkChars remark ++ '\n' :: rest), ?_, ?_⟩
    · rw [hw]
      simp only [List.cons_append, List.append_assoc, List.nil_append, hs, readColumnTail,
        peek_place_cons, if_true, next_place_cons, readAttributeList, readAttributes_place _ h]
    · rw [skipEntry_place_remark k, hw]
      congr 1
      simp only [List.length_cons, List.length_append, List.length_nil]
      omega

end Cursor

def columnEntry (column : Column) : List Char :=
  (renderName column.name).toList ++ ' ' :: ((renderType column.type).toList ++
    (renderSettings (renderAttributes column)).toList)

theorem toList_renderColumn (column : Column) :
    (renderColumn column).toList = ' ' :: ' ' :: columnEntry column := by
  simp [renderColumn, columnEntry]

namespace Cursor

theorem stops_isBlank_renderType (type : String) (rest : List Char) :
    Stops Text.isBlank ((renderType type).toList ++ rest) := by
  refine stops_renderType (fun ch hc => ?_) (fun ch => isBlank_eq_false_of_isMark) type rest
  rcases isBare_iff.1 hc with hp | rfl
  · exact isBlank_eq_false_of_isPlain hp
  · rfl

theorem readNameAndType_place (n : Nat) {column : Column} (h : ExpressibleColumn column)
    {rest : List Char} (k : EndsName rest) :
    (place n ((renderName column.name).toList ++ ' ' ::
        ((renderType column.type).toList ++ rest))).readNameAndType =
      ((column.name.toList, column.type.toList),
        place (n + (renderName column.name).toList.length + 1 +
          (renderType column.type).toList.length) rest) := by
  have hb : Stops isBare (' ' :: ((renderType column.type).toList ++ rest)) :=
    stops_cons.2 (by decide)
  have hm : Stops isMark (' ' :: ((renderType column.type).toList ++ rest)) :=
    stops_cons.2 (by decide)
  have hn : column.name.toList ≠ [] := by simpa using h.name_ne
  have ht := stops_isBlank_renderType column.type rest
  rw [toList_renderName]
  simp only [readNameAndType, readName_renderNameChars n h.name_quotable hb hm, hn, if_false,
    skipInline_place_cons, skipInline_place_of_stops _ ht,
    readType_renderType _ h.type_quotable k]

theorem endsName_renderSettings (settings : List String) (remark : Option String)
    (rest : List Char) :
    EndsName ((renderSettings settings).toList ++ (remarkChars remark ++ '\n' :: rest)) := by
  unfold renderSettings
  split
  · exact endsName_remarkChars remark rest
  · simpa using (by decide : Text.isBlank ' ')

theorem readColumn_place (n : Nat) {column : Column} (h : ExpressibleColumn column)
    {remark : Option String} (k : Harmless remark) (rest : List Char) :
    (place n (columnEntry column ++ (remarkChars remark ++ '\n' :: rest))).readColumn =
      ⟨some column, place (n + (columnEntry column ++ remarkChars remark).length + 1) rest,
        []⟩ := by
  have hn : ¬ (column.name.toList = [] ∨ column.type.toList = []) := by
    simpa using ⟨h.name_ne, h.type_ne⟩
  have ha : ∀ a ∈ attributesOf column, a.Expressible := fun a =>
    expressible_of_mem_attributesOf h
  have hl : n + (columnEntry column ++ remarkChars remark).length =
      n + (renderName column.name).toList.length + 1 + (renderType column.type).toList.length +
        ((renderSettings (renderAttributes column)).toList ++ remarkChars remark).length := by
    simp [columnEntry]
    omega
  have hw : columnEntry column ++ (remarkChars remark ++ '\n' :: rest) =
      (renderName column.name).toList ++ ' ' :: ((renderType column.type).toList ++
        ((renderSettings (renderAttributes column)).toList ++
          (remarkChars remark ++ '\n' :: rest))) := by
    simp [columnEntry]
  rw [hw, hl, readColumn, readNameAndType_place n h (endsName_renderSettings _ _ _)]
  obtain ⟨next, ht, hnext⟩ := readColumnTail_renderSettings
    (n + (renderName column.name).toList.length + 1 + (renderType column.type).toList.length) ha k
    rest
  simp only [hn, if_false, renderAttributes_eq, ht, hnext, String.ofList_toList,
    foldl_attributesOf]

end Cursor

end SchemaText.Diagram
