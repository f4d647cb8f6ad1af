import SchemaText.Proofs.Diagram.DottedName
import SchemaText.Proofs.Text.Trim
/-! Types and attribute values, written and read back. -/

namespace SchemaText.Diagram

theorem toList_renderType (type : String) :
    (renderType type).toList =
      if isPlainType type.toList then type.toList else quoteChars type.toList := by
  unfold renderType quote
  split <;> simp

theorem toList_renderValue (value : String) :
    (renderValue value).toList =
      if needsQuotes value.toList then quoteChars value.toList else value.toList := by
  unfold renderValue quote
  split <;> simp

theorem exists_of_isPlainType {cs : List Char} (h : isPlainType cs) :
    ∃ name, name ≠ [] ∧ (∀ ch ∈ name, isBare ch) ∧
      (cs = name ∨ ∃ arguments,
        (∀ a ∈ arguments, a ≠ '(' ∧ a ≠ ')' ∧ a ≠ '\n' ∧ isMark a = false) ∧
        cs = name ++ ('(' :: arguments ++ [')'])) := by
  have hcs : cs.takeWhile isBare ++ cs.dropWhile isBare = cs := List.takeWhile_append_dropWhile
  have hb : ∀ ch ∈ cs.takeWhile isBare, isBare ch :=
    List.all_eq_true.1 List.all_takeWhile
  simp only [isPlainType, Bool.and_eq_true] at h
  obtain ⟨hn, hd⟩ := h
  refine ⟨cs.takeWhile isBare, by simpa using hn, hb, ?_⟩
  cases hr : cs.dropWhile isBare with
  | nil => exact .inl (by simpa [hr] using hcs.symm)
  | cons c arguments =>
    simp only [hr, Bool.and_eq_true, beq_iff_eq, List.all_eq_true] at hd
    obtain ⟨⟨rfl, hl⟩, ha⟩ := hd
    refine .inr ⟨arguments.dropLast, by simpa [and_assoc] using ha, ?_⟩
    have hs : arguments.dropLast ++ [')'] = arguments := by
      obtain ⟨xs, rfl⟩ := List.getLast?_eq_some_iff.1 hl
      simp
    rw [List.cons_append, hs, ← hr, hcs]

theorem exists_renderType_eq_cons (type : String) :
    ∃ ch tail, (renderType type).toList = ch :: tail ∧ (isBare ch ∨ isMark ch) := by
  rw [toList_renderType]
  split
  · next hp =>
    obtain ⟨name, hn, hb, hc⟩ := exists_of_isPlainType hp
    obtain ⟨ch, tail, rfl⟩ := List.exists_cons_of_ne_nil hn
    refine ⟨ch, type.toList.tail, ?_, .inl (hb ch (by simp))⟩
    rcases hc with hc | ⟨arguments, -, hc⟩ <;> simp [hc]
  · exact ⟨markFor type.toList, _, rfl, .inr (isMark_markFor _)⟩

theorem needsQuotes_eq_false_iff {cs : List Char} :
    needsQuotes cs = false ↔
      cs ≠ [] ∧ Text.trim cs = cs ∧ (∀ ch ∈ cs.head?, isMark ch = false) ∧
        ∀ c ∈ cs, c ≠ ',' ∧ c ≠ ']' ∧ c ≠ '\n' ∧ c ≠ '}' := by
  cases cs <;> simp [needsQuotes, and_assoc]

namespace Cursor

theorem argumentsEnd_one (n : Nat) {arguments : List Char}
    (h : ∀ a ∈ arguments, a ≠ '(' ∧ a ≠ ')' ∧ a ≠ '\n' ∧ isMark a = false) (rest : List Char) :
    (place n (arguments ++ ')' :: rest)).argumentsEnd 1 =
      place (n + arguments.length + 1) rest := by
  induction arguments generalizing n with
  | nil =>
    rw [argumentsEnd]
    simp [isMark]
  | cons a arguments ih =>
    obtain ⟨ho, hc, hl, hm⟩ := h a (by simp)
    have hi := ih (n + 1) fun b hb => h b (by simp [hb])
    rw [argumentsEnd]
    simp [ho, hc, hl, hm, hi, Nat.add_assoc, Nat.add_comm 1]

theorem readArguments_place (n : Nat) {arguments : List Char}
    (h : ∀ a ∈ arguments, a ≠ '(' ∧ a ≠ ')' ∧ a ≠ '\n' ∧ isMark a = false) (rest : List Char) :
    (place n ('(' :: arguments ++ ')' :: rest)).readArguments =
      ('(' :: arguments ++ [')'], place (n + arguments.length + 2) rest) := by
  have he : (place n ('(' :: arguments ++ ')' :: rest)).argumentsEnd 0 =
      place (n + arguments.length + 2) rest := by
    rw [List.cons_append, argumentsEnd]
    simp [isMark, argumentsEnd_one (n + 1) h, Nat.add_assoc, Nat.add_comm 1]
  have hl : n + arguments.length + 2 - n = ('(' :: arguments ++ [')']).length := by
    simp
    omega
  have ht : '(' :: arguments ++ ')' :: rest = ('(' :: arguments ++ [')']) ++ rest := by simp
  rw [readArguments, he, textTo, place_rest, place_offset, place_offset, hl, ht,
    List.take_left]

theorem readType_bare (n : Nat) {cs : List Char} (h : ∀ ch ∈ cs, isBare ch) {rest : List Char}
    (k : EndsName rest) :
    (place n (cs ++ rest)).readType = (cs, place (n + cs.length) rest) := by
  have hr := readName_bare n h k.stops_isBare k.stops_isMark
  have hp : (place (n + cs.length) rest).peek ≠ some '(' := by
    cases rest with
    | nil => simp
    | cons ch rest =>
      rintro ⟨⟩
      exact absurd (endsName_cons.1 k) (by decide)
  simp [readType, hr, hp]

theorem readType_arguments (n : Nat) {cs arguments : List Char} (h : ∀ ch ∈ cs, isBare ch)
    (hn : cs ≠ []) (ha : ∀ a ∈ arguments, a ≠ '(' ∧ a ≠ ')' ∧ a ≠ '\n' ∧ isMark a = false)
    (rest : List Char) :
    (place n (cs ++ ('(' :: arguments ++ ')' :: rest))).readType =
      (cs ++ ('(' :: arguments ++ [')']), place (n + cs.length + arguments.length + 2) rest) := by
  have hb : Stops isBare ('(' :: arguments ++ ')' :: rest) := by simp [isBare]
  have hm : Stops isMark ('(' :: arguments ++ ')' :: rest) := by simp [isMark]
  have hr := readName_bare n h hb hm
  have hq : (place n (cs ++ ('(' :: arguments ++ ')' :: rest))).mark? = none := by
    obtain ⟨ch, tail, rfl⟩ := List.exists_cons_of_ne_nil hn
    exact mark?_place_of_stops n (by simpa using isMark_eq_false_of_isBare (h ch (by simp)))
  have hp : (place (n + cs.length) ('(' :: arguments ++ ')' :: rest)).peek = some '(' := rfl
  have hc : cs.isEmpty = false := by simpa using hn
  simp only [readType, hr, hq, hp, hc, readArguments_place _ ha]
  simp

theorem readType_quoteChars (n : Nat) {cs : List Char} (h : Quotable cs) (rest : List Char) :
    (place n (quoteChars cs ++ rest)).readType =
      (cs, place (n + (quoteChars cs).length) rest) := by
  have hq : (place n (quoteChars cs ++ rest)).mark? = some (markFor cs) :=
    mark?_place_of_isMark n (isMark_markFor cs) _
  simp [readType, hq, readName_quoteChars n h]

theorem readType_renderType (n : Nat) {type : String} (h : Quotable type.toList)
    {rest : List Char} (k : EndsName rest) :
    (place n ((renderType type).toList ++ rest)).readType =
      (type.toList, place (n + (renderType type).toList.length) rest) := by
  rw [toList_renderType]
  split
  · next hp =>
    obtain ⟨name, hn, hb, hc | ⟨arguments, ha, hc⟩⟩ := exists_of_isPlainType hp
    · rw [hc]
      exact readType_bare n hb k
    · have hr := readType_arguments n hb hn ha rest
      rw [hc]
      simpa [Nat.add_assoc, Nat.add_comm 2] using hr
  · exact readType_quoteChars n h rest

theorem stops_renderType {accepts : Char → Bool} (h : ∀ ch, isBare ch → accepts ch = false)
    (k : ∀ ch, isMark ch → accepts ch = false) (type : String) (rest : List Char) :
    Stops accepts ((renderType type).toList ++ rest) := by
  obtain ⟨ch, tail, hc, ho | ho⟩ := exists_renderType_eq_cons type
  · simp [hc, h ch ho]
  · simp [hc, k ch ho]

theorem readValue_quoteChars (n : Nat) {cs : List Char} (h : Quotable cs) (rest : List Char) :
    (place n (quoteChars cs ++ rest)).readValue =
      (cs, place (n + (quoteChars cs).length) rest) := by
  have hs := stops_isBlank_quoteChars cs rest
  have hm : (place n (quoteChars cs ++ rest)).mark? = some (markFor cs) :=
    mark?_place_of_isMark n (isMark_markFor cs) _
  have hn := readName_quoteChars n h rest
  rw [readName, hm] at hn
  simpa only [readValue, skipBlank_place_of_stops n hs, hm] using hn

theorem readValue_renderValue (n : Nat) {value : String}
    (h : needsQuotes value.toList → Quotable value.toList) {ch : Char} (k : ch = ',' ∨ ch = ']')
    (rest : List Char) :
    (place n ((renderValue value).toList ++ ch :: rest)).readValue =
      (value.toList, place (n + (renderValue value).toList.length) (ch :: rest)) := by
  rw [toList_renderValue]
  split
  · next hq => exact readValue_quoteChars n (h hq) _
  · next hq =>
    obtain ⟨hn, ht, hm, ha⟩ := needsQuotes_eq_false_iff.1 (Bool.eq_false_iff.2 hq)
    generalize value.toList = cs at hn ht hm ha
    obtain ⟨first, tail, hc⟩ := List.exists_cons_of_ne_nil hn
    have hb : Stops Text.isBlank (cs ++ ch :: rest) := by
      simpa [hc] using Text.isBlank_head_trim (ht.trans hc)
    have hq : (place n (cs ++ ch :: rest)).mark? = none :=
      mark?_place_of_stops n (by simpa [hc] using hm first (by simp [hc]))
    have hs : Stops (fun c => decide (c ≠ ',') && decide (c ≠ ']') && decide (c ≠ '\n') &&
        decide (c ≠ '}')) (ch :: rest) := by
      rcases k with rfl | rfl <;> simp
    have hr := takeWhile_place n (by simpa [and_assoc] using ha) hs
    simp only [readValue, skipBlank_place_of_stops n hb, hq, hr, ht]

end Cursor

end SchemaText.Diagram
