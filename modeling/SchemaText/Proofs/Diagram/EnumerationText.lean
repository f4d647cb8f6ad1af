import SchemaText.Diagram.Enumeration
import SchemaText.Proofs.Diagram.Remark
/-! Enumerations, written and read back. -/

namespace SchemaText.Diagram

def writtenValues (lines : List (String × Option String)) : List Char :=
  lines.flatMap fun line =>
    ' ' :: ' ' :: (renderNameChars line.1.toList ++ (remarkChars line.2 ++ ['\n']))

theorem toList_renderEnumerationWith (remark : Nat → Option String) (enumeration : Enumeration) :
    (renderEnumerationWith remark enumeration).toList = "Enum ".toList ++
      (renderQualifiedNameChars enumeration.name.toList ++
        (" \x7b\n".toList ++
          (writtenValues (withRemarks remark enumeration.values) ++ ['}']))) := by
  obtain ⟨name, values⟩ := enumeration
  unfold renderEnumerationWith joinLines writtenValues renderLines
  simp only [String.toList_intercalate, List.map_append, List.map_cons, List.map_nil]
  rw [Text.intercalate_concat]
  simp [renderQualifiedName, List.flatMap_map, toList_renderName, toList_remarked]

namespace Cursor

section Entries

variable {value : String} (h : Quotable value.toList) (hne : value ≠ "") {remark : Option String}
  (k : Harmless remark)
include h hne k

theorem readEnumEntry_place (n : Nat) (rest : List Char) :
    (place n (renderNameChars value.toList ++ (remarkChars remark ++ '\n' :: rest))).readEnumEntry =
      ⟨some value,
        place (n + (renderNameChars value.toList ++ remarkChars remark).length + 1) rest, []⟩ := by
  obtain ⟨ch, tail, hc, ho⟩ := exists_renderNameChars_eq_cons value.toList
  have hs : ch ≠ '/' := by
    rintro rfl
    exact absurd ho (by decide)
  have hcomment : (place n (renderNameChars value.toList ++
      (remarkChars remark ++ '\n' :: rest))).isComment = false := by
    rw [hc, List.cons_append, isComment_place_cons n hs]
  have hl : 0 < (renderNameChars value.toList).length := by simp [hc]
  have hend := endsName_remarkChars remark rest
  have hv : value.toList ≠ [] := by simpa using hne
  rw [readEnumEntry, hcomment, readName_renderNameChars n h hend.stops_isBare hend.stops_isMark]
  simp [advanceTo, hl, hv, skipEntry_place_remark k, Nat.add_assoc]

theorem readEnumEntries_next (n : Nat) (rest : List Char) :
    (place n (renderNameChars value.toList ++
        (remarkChars remark ++ '\n' :: rest))).readEnumEntries =
      let entries := (place (n + (renderNameChars value.toList ++ remarkChars remark).length + 1)
        rest).readEnumEntries
      ⟨value :: entries.value, entries.next, entries.diagnostics⟩ := by
  have hr := readEnumEntry_place h hne k n rest
  obtain ⟨ch, tail, hc, ho⟩ := exists_renderNameChars_eq_cons value.toList
  have hb : Text.isBlank ch = false := isBlank_eq_false_of_opensName ho
  have hs : ch ≠ '}' := by
    rintro rfl
    exact absurd ho (by decide)
  generalize (renderNameChars value.toList ++ remarkChars remark).length = l at hr ⊢
  rw [hc, List.cons_append] at hr ⊢
  rw [readEnumEntries, skipBlank_place_of_stops n (stops_cons.2 hb), hr]
  simp [hs]

end Entries

theorem readEnumEntries_blank (n : Nat) {ch : Char} (h : Text.isBlank ch) (rest : List Char) :
    (place n (ch :: rest)).readEnumEntries = (place (n + 1) rest).readEnumEntries := by
  rw [readEnumEntries, readEnumEntries, skipBlank_place_cons n h rest]

theorem readEnumEntries_place (n : Nat) {lines : List (String × Option String)}
    (h : ∀ line ∈ lines, Quotable line.1.toList) (hne : ∀ line ∈ lines, line.1 ≠ "")
    (k : ∀ line ∈ lines, Harmless line.2) (rest : List Char) :
    (place n (writtenValues lines ++ '}' :: rest)).readEnumEntries =
      ⟨lines.map Prod.fst, place (n + (writtenValues lines).length) ('}' :: rest), []⟩ := by
  have hs : Text.isBlank ' ' := by decide
  induction lines generalizing n with
  | nil =>
    have he : (place n ('}' :: rest)).skipBlank = place n ('}' :: rest) :=
      skipBlank_place_of_stops n (stops_cons.2 (by decide))
    rw [writtenValues, List.flatMap_nil, List.nil_append, readEnumEntries, he]
    simp
  | cons line lines ih =>
    have hw : writtenValues (line :: lines) ++ '}' :: rest = ' ' :: ' ' ::
        (renderNameChars line.1.toList ++
          (remarkChars line.2 ++ '\n' :: (writtenValues lines ++ '}' :: rest))) := by
      simp [writtenValues]
    have hl : n + (writtenValues (line :: lines)).length =
        n + 1 + 1 + (renderNameChars line.1.toList ++ remarkChars line.2).length + 1 +
          (writtenValues lines).length := by
      simp [writtenValues]
      omega
    rw [hw, hl, readEnumEntries_blank _ hs, readEnumEntries_blank _ hs,
      readEnumEntries_next (h line (by simp)) (hne line (by simp)) (k line (by simp)),
      ih _ (fun l hm => h l (by simp [hm])) (fun l hm => hne l (by simp [hm]))
        fun l hm => k l (by simp [hm]), List.map_cons]

section Values

variable {enumeration : Enumeration} (h : ExpressibleEnumeration enumeration)
  {remark : Nat → Option String} (k : ∀ i, Harmless (remark i))
include h k

theorem readEnumBody_place (start : Cursor) (n : Nat) (rest : List Char) :
    start.readEnumBody (place n ('{' :: '\n' ::
        (writtenValues (withRemarks remark enumeration.values) ++ '}' :: rest))) =
      ⟨enumeration.values,
        place (n + 2 + (writtenValues (withRemarks remark enumeration.values)).length + 1) rest,
        []⟩ := by
  have hb : Text.isBlank '\n' := by decide
  have hq : ∀ line ∈ withRemarks remark enumeration.values, Quotable line.1.toList :=
    fun line hm => h.value_quotable line.1 (mem_of_mem_withRemarks hm)
  have hne : ∀ line ∈ withRemarks remark enumeration.values, line.1 ≠ "" :=
    fun line hm => h.value_ne line.1 (mem_of_mem_withRemarks hm)
  simp only [readEnumBody, peek_place_cons, next_place_cons, if_true, readEnumEntries_blank _ hb,
    readEnumEntries_place _ hq hne fun _ => harmless_of_mem_withRemarks k, eat_place_cons,
    map_fst_withRemarks]

theorem readEnumeration_place (n : Nat) (rest : List Char) :
    (place n ((renderEnumerationWith remark enumeration).toList ++ rest)).readEnumeration =
      ⟨enumeration, place (n + (renderEnumerationWith remark enumeration).toList.length) rest,
        []⟩ := by
  have hw : (renderEnumerationWith remark enumeration).toList ++ rest = "Enum".toList ++
      ' ' :: (renderQualifiedNameChars enumeration.name.toList ++
        ' ' :: '{' :: '\n' ::
          (writtenValues (withRemarks remark enumeration.values) ++ '}' :: rest)) := by
    simp [toList_renderEnumerationWith]
  have hl : n + (renderEnumerationWith remark enumeration).toList.length =
      n + "Enum".toList.length + 1 + (renderQualifiedNameChars enumeration.name.toList).length +
        1 + 2 + (writtenValues (withRemarks remark enumeration.values)).length + 1 := by
    simp [toList_renderEnumerationWith]
    omega
  have hblank (m : Nat) (more : List Char) :
      (place m (' ' :: '{' :: more)).skipBlank = place (m + 1) ('{' :: more) :=
    skipBlank_place_space m (stops_cons.2 (by decide))
  have hbody := fun start m => readEnumBody_place h k start m rest
  rw [hw, hl]
  generalize writtenValues (withRemarks remark enumeration.values) = lines at hbody ⊢
  have hstop := stops_renderQualifiedNameChars (fun _ => isBlank_eq_false_of_opensName)
    enumeration.name.toList (' ' :: '{' :: '\n' :: (lines ++ '}' :: rest))
  have hends : EndsName (' ' :: '{' :: '\n' :: (lines ++ '}' :: rest)) :=
    endsName_cons.2 (by decide)
  rw [readEnumeration, skipBlank_skipKeyword_place n (by decide) hstop,
    readQualifiedName_place _ h.name_quotable hends]
  simp only [hblank, hbody, String.ofList_toList]

end Values

end Cursor

end SchemaText.Diagram
