import SchemaText.Proofs.Pattern.Sought
import SchemaText.Proofs.Sql.TableRead
import SchemaText.Proofs.Sql.WrittenText
/-! The clauses of written tables, and what each of them adds to a table that is being read. -/

namespace SchemaText.Sql.Written

open Pattern Statement
open Sql.Core (Word enclosed all_append all_intercalate textsOf text_eq IdEnd)
open Diagram (isPlain)
open Text (Stops stops_nil stops_cons isBlank isWord sameLetter Firm firm_append)

section Ends

def FirmEnd (text : List Char) : Prop :=
  ∃ c, text.getLast? = some c ∧ isBlank c = false

theorem FirmEnd.append {ys : List Char} (h : FirmEnd ys) (xs : List Char) : FirmEnd (xs ++ ys) := by
  obtain ⟨c, hc, hb⟩ := h
  exact ⟨c, by rw [List.getLast?_append, hc]; rfl, hb⟩

theorem FirmEnd.append_of_nil_or {xs ys : List Char} (h : FirmEnd xs) (k : ys = [] ∨ FirmEnd ys) :
    FirmEnd (xs ++ ys) := by
  rcases k with rfl | k
  · rwa [List.append_nil]
  · exact k.append xs

theorem firmEnd_moreText (type : TypeText) : type.moreText = [] ∨ FirmEnd type.moreText := by
  unfold TypeText.moreText
  rcases type.more.eq_nil_or_concat with h | ⟨more, word, h⟩
  · exact .inl (by rw [h]; rfl)
  · have hword : FirmEnd word.chars := (Core.firm_word word).last
    rw [h, List.concat_eq_append, List.flatMap_append, List.flatMap_singleton]
    exact .inr ((hword.append [' ']).append _)

theorem firmEnd_column (column : Column) : FirmEnd column.chars := by
  have harguments : column.type.argumentsText = [] ∨ FirmEnd column.type.argumentsText := by
    rcases column.type.argumentsText_eq with ⟨_, h⟩ | ⟨text, _, _, h⟩
    · exact .inl h
    · exact .inr (h ▸ (Core.firm_enclosed text).last)
  have hnull : FirmEnd " NOT NULL".toList := ⟨'L', by decide, by decide⟩
  have hcounts : FirmEnd " AUTO_INCREMENT".toList := ⟨'T', by decide, by decide⟩
  have hflags : column.flags = [] ∨ FirmEnd column.flags := by
    unfold Column.flags
    split <;> split
    · exact .inr (hcounts.append _)
    · exact .inr (hnull.append_of_nil_or (.inl rfl))
    · exact .inr hcounts
    · exact .inl rfl
  have htype : FirmEnd column.type.chars := by
    have hhead : FirmEnd column.type.head.chars := (Core.firm_word column.type.head).last
    unfold TypeText.chars
    rw [← List.append_assoc]
    exact (hhead.append_of_nil_or (firmEnd_moreText column.type)).append_of_nil_or harguments
  exact ((htype.append_of_nil_or hflags).append [' ']).append _

theorem firm_clause (clause : TableClause) : Firm clause.chars := by
  have hend (text : List Char) : FirmEnd (enclosed text) := (Core.firm_enclosed text).last
  cases clause with
  | column column =>
    refine ⟨?_, firmEnd_column column⟩
    obtain ⟨c, hc, hb⟩ := column.name.firm.head
    refine ⟨c, ?_, hb⟩
    have hchars : (TableClause.column column).chars = column.chars := rfl
    rw [hchars, Column.chars, List.head?_append, hc]
    rfl
  | primaryKey names => exact ⟨⟨'P', rfl, by decide⟩, (hend _).append _⟩
  | unique name => exact ⟨⟨'U', rfl, by decide⟩, (hend _).append _⟩
  | reference r =>
    have hlast := (hend r.targetColumn.chars).append [' ']
    exact ⟨⟨'F', rfl, by decide⟩, (((hlast.append _).append _).append _).append _⟩

end Ends

section Columns

theorem Name.exists_front (n : Name) (rest : List Char) (h : Stops isWord rest) :
    ∃ front back, n.chars ++ rest = front ++ back ∧ (∀ c ∈ front, isPlain c) ∧ Stops isWord back ∧
      (front = n.word.chars ∨ front = []) := by
  rcases n.chars_eq with hc | ⟨c, hc, he⟩
  · exact ⟨n.word.chars, rest, by rw [hc], n.word.plain, h, .inl rfl⟩
  · refine ⟨[], n.chars ++ rest, rfl, by simp, ?_, .inr rfl⟩
    rw [he]
    rcases hc with rfl | rfl <;> exact stops_cons.2 rfl

theorem matchStart_opening_column (column : Column) :
    Constraint.opening.matchStart column.chars = none := by
  obtain ⟨front, back, hfront, hplain, hstops, hname⟩ :=
    column.name.exists_front (' ' :: (column.type.chars ++ column.flags)) (stops_cons.2 rfl)
  have hspells {letters : String} (hl : letters ∈ columnKeywords) :
      spells letters front = false := by
    rcases hname with rfl | rfl
    · simpa using List.all_eq_true.1 column.named letters hl
    · have hall : columnKeywords.all fun letters => !spells letters [] := by decide
      simpa using List.all_eq_true.1 hall letters hl
  have hletters {letters : String} (hl : letters ∈ columnKeywords) :
      letters.toList.all isPlain ∧ letters.toList ≠ [] := by
    have hall : columnKeywords.all fun letters =>
      letters.toList.all isPlain && decide (letters.toList ≠ []) := by decide
    simpa only [Bool.and_eq_true, decide_eq_true_eq] using List.all_eq_true.1 hall letters hl
  have hchars : column.chars = front ++ back := hfront
  rw [hchars]
  refine Core.anchored_opening.matchStart_eq_none
    (Core.failsOn_constraintKeyword (fun letters hl => ?_) fun letters hl => ?_)
  · have hin : letters ∈ columnKeywords := by
      revert letters
      decide
    exact failsOn_word_wordEdge (hletters hin).1 (hletters hin).2 hplain hstops (hspells hin)
  · have hin : letters ∈ columnKeywords := by
      revert letters
      decide
    exact failsOn_keyword_append (hletters hin).1 hplain hstops
      fun hs => by simp [hspells hin] at hs

def Column.after (column : Column) : List Char :=
  column.type.left ++ column.flags

theorem Column.flags_eq (column : Column) :
    column.flags = [] ∨ ∃ c text, column.flags = ' ' :: c :: text ∧ isBlank c = false := by
  unfold flags
  split
  · exact .inr ⟨'N', _, rfl, by decide⟩
  · split
    · exact .inr ⟨'A', _, rfl, by decide⟩
    · exact .inl rfl

theorem Column.after_eq (column : Column) :
    column.after = [] ∨ ∃ c text, column.after = ' ' :: c :: text ∧ isBlank c = false := by
  unfold after TypeText.left TypeText.moreText
  cases column.type.more with
  | nil => exact column.flags_eq
  | cons word more =>
    obtain ⟨c, cs, hc, hp⟩ := word.exists_cons
    rw [if_neg (by simp), List.flatMap_cons, hc]
    exact .inr ⟨c, _, rfl, Diagram.isBlank_eq_false_of_isPlain hp⟩

theorem takes_type (column : Column) :
    Core.typePattern.Takes column.type.taken column.after [] := by
  have hstops : Stops isWord column.after ∧ Stops (· == '(') column.after := by
    rcases column.after_eq with h | ⟨c, text, h, _⟩
    · rw [h]
      exact ⟨stops_nil _, stops_nil _⟩
    · rw [h]
      exact ⟨stops_cons.2 rfl, stops_cons.2 rfl⟩
  have hword := Core.takes_typeWord column.type.head hstops.1 hstops.2
  unfold TypeText.taken
  split
  · rcases column.type.argumentsText_eq with ⟨_, h⟩ | ⟨text, ha, _, h⟩
    · rw [h, List.append_nil]
      exact hword
    · rw [h]
      refine Core.takes_typeEnclosed column.type.head (fun c hc => ?_) _
      rintro rfl
      exact absurd (List.all_eq_true.1 ha _ hc) (by decide)
  · rw [List.append_nil]
    exact hword

theorem Column.chars_eq (column : Column) :
    column.chars = column.name.chars ++ ' ' :: (column.type.taken ++ column.after) := by
  unfold chars after
  rw [← column.type.taken_append_left, List.append_assoc]

theorem takes_definition (column : Column) :
    Core.definitionTail.Takes column.chars []
      [("tail", column.tail), ("type", column.type.taken), ("name", column.name.chars)] := by
  rw [column.chars_eq]
  refine Core.takes_definitionTail (takes_name column.name (stops_cons.2 rfl)) (takes_type column)
    ?_ column.after_eq
  unfold TypeText.taken
  rw [List.append_assoc]
  exact column.type.head.stops _

theorem isQuiet_of_isArgument {c : Char} (h : isArgument c) : isQuiet c := by
  rcases Bool.or_eq_true_iff.1 h with h | h
  · simp [isQuiet, Text.sameLetter_of_isDigit h (l := 'K') (by decide),
      Text.sameLetter_of_isDigit h (l := 'L') (by decide),
      Text.sameLetter_of_isDigit h (l := 'F') (by decide)]
  · simp only [List.contains_eq_mem, List.mem_cons, List.not_mem_nil, or_false,
      decide_eq_true_eq] at h
    rcases h with rfl | rfl | rfl | rfl <;> decide

theorem TypeText.all_left (type : TypeText) : type.left.all isQuiet := by
  unfold left
  split
  · rfl
  · refine all_append (type.all_moreText (by decide) type.quiet) ?_
    rcases type.argumentsText_eq with ⟨_, h⟩ | ⟨text, ha, _, h⟩
    · rw [h]
      rfl
    · rw [h]
      refine all_append (a := ['(']) (by decide) (all_append ?_ (by decide))
      exact List.all_eq_true.2 fun c hc => isQuiet_of_isArgument (List.all_eq_true.1 ha c hc)

theorem Column.all_tail {p : Char → Bool} (column : Column) (hq : ∀ c, isQuiet c → p c)
    (h : column.flags.all p) : ∀ c ∈ column.tail, p c := by
  intro c hc
  rcases List.mem_append.1 (List.mem_of_mem_drop hc) with hc | hc
  · exact hq c (List.all_eq_true.1 column.type.all_left c hc)
  · exact List.all_eq_true.1 h c hc

theorem search_tail_eq_none {p : Pattern} {letter : Char} (h : Needs (sameLetter letter) p)
    (column : Column) (hq : ∀ c, isQuiet c → sameLetter letter c = false)
    (hf : column.flags.all fun c => !sameLetter letter c) : p.search column.tail = none := by
  refine search_eq_none_of_needs h fun c hc => ?_
  have hall := column.all_tail (p := fun c => !sameLetter letter c)
    (fun c hc => by simp [hq c hc]) hf
  simpa using hall c hc

theorem isQuiet_iff {c : Char} :
    isQuiet c ↔
      (sameLetter 'K' c = false ∧ sameLetter 'L' c = false) ∧ sameLetter 'F' c = false := by
  simp [isQuiet]

theorem search_primaryKey (column : Column) :
    ColumnClause.primaryKey.search column.tail = none := by
  have hneeds : Needs (sameLetter 'K') ColumnClause.primaryKey :=
    (needs_word "KEY" (by decide)).append_right _
  exact search_tail_eq_none hneeds column (fun c hc => (isQuiet_iff.1 hc).1.1)
    (column.all_flags (by decide) (by decide))

theorem search_reference (column : Column) : ColumnClause.reference.search column.tail = none := by
  have hword : Needs (sameLetter 'F') (word "REFERENCES") := needs_word _ (by decide)
  have hneeds : Needs (sameLetter 'F') ColumnClause.reference :=
    ((((hword.append_left _).append_left _).append_left _).append_left _).append_right _
  exact search_tail_eq_none hneeds column (fun c hc => (isQuiet_iff.1 hc).2)
    (column.all_flags (by decide) (by decide))

theorem search_notNull (column : Column) :
    (ColumnClause.notNull.search column.tail).isSome = column.notNull := by
  cases hn : column.notNull with
  | false =>
    have hneeds : Needs (sameLetter 'L') ColumnClause.notNull :=
      (needs_word "NULL" (by decide)).append_right _
    have hflags : column.flags.all fun c => !sameLetter 'L' c := by
      unfold Column.flags
      rw [hn]
      cases column.counts <;> decide
    rw [search_tail_eq_none hneeds column (fun c hc => (isQuiet_iff.1 hc).1.2) hflags]
    rfl
  | true =>
    have hphrase (rest : List Char) : ColumnClause.notNull.Takes
        ("NOT".toList ++ [' '] ++ "NULL".toList) rest [] :=
      Core.takes_phrase "NOT" "NULL" (stops_cons.2 rfl)
    obtain ⟨rest, hrest⟩ : ∃ rest, column.flags = " NOT NULL".toList ++ rest := by
      unfold Column.flags
      rw [hn]
      exact ⟨_, rfl⟩
    have htext : " NOT NULL".toList = ' ' :: ("NOT".toList ++ [' '] ++ "NULL".toList) := by decide
    obtain ⟨front, hfront⟩ : ∃ front, column.tail =
        front ++ (("NOT".toList ++ [' '] ++ "NULL".toList) ++ rest) := by
      unfold Column.tail
      rw [hrest, htext]
      cases column.type.left with
      | nil => exact ⟨[], rfl⟩
      | cons c left => exact ⟨left ++ [' '], by simp⟩
    rw [hfront]
    exact (hphrase rest).isSome_search front

theorem columnOf_eq {m : Match} {column : Column}
    (h : textsOf m = [("tail", column.tail), ("type", column.type.taken),
      ("name", column.name.chars)]) : ColumnClause.columnOf m = column.column [] := by
  have hname : m.text "name" = column.name.chars := text_eq h "name"
  have htype : m.text "type" = column.type.taken := text_eq h "type"
  have htail : m.text "tail" = column.tail := text_eq h "tail"
  unfold ColumnClause.columnOf Column.column
  simp only [hname, htype, htail, search_primaryKey, search_notNull, clean_name]
  rfl

end Columns

theorem Name.all_inner (n : Name) : n.chars.all Core.isInner :=
  n.all (fun c hc => by
    simpa [Core.isInner] using ⟨Core.ne_of_isPlain hc (d := '(') (by decide),
      Core.ne_of_isPlain hc (d := ')') (by decide)⟩) (by decide) (by decide)

theorem all_inner_namesText (names : List Name) : (namesText names).all Core.isInner := by
  refine all_intercalate (by decide) fun part hp => ?_
  obtain ⟨n, _, rfl⟩ := List.mem_map.1 hp
  exact n.all_inner

section References

def Reference.keyText (r : Reference) : Core.KeyText where
  before := []
  columns := r.column.chars
  target := r.target.chars
  between := [' ']
  targetColumns := r.targetColumn.chars

theorem Reference.isKey_keyText (r : Reference) : r.keyText.IsKey where
  blank_before := by simp [keyText]
  inner_columns := r.column.all_inner
  stops := r.target.stops
  takes rest := takes_id r.target
    (.space (e := "(") (by decide) (r.targetColumn.chars ++ [')'] ++ rest))
  blank_between := by simpa [keyText] using Text.isBlank_space
  inner_targetColumns := r.targetColumn.all_inner

theorem takes_foreignKeyTail (r : Reference) :
    Core.foreignKeyTail.Takes r.chars []
      [("target_columns", r.targetColumn.chars), ("target", r.target.chars),
        ("columns", r.column.chars)] := by
  have hkey : "FOREIGN KEY".toList = "FOREIGN".toList ++ [' '] ++ "KEY".toList := by decide
  have hmiddle : " REFERENCES ".toList = [' '] ++ "REFERENCES".toList ++ [' '] := by decide
  have htext : r.chars = "FOREIGN".toList ++ [' '] ++ "KEY".toList ++ r.keyText.chars := by
    unfold Reference.chars Reference.keyText Core.KeyText.chars Core.KeyText.reference
    rw [hkey, hmiddle]
    simp only [List.append_assoc, List.cons_append, List.nil_append]
  rw [htext]
  exact r.isKey_keyText.takes_foreignKeyTail

theorem foreignKeys_eq (table : String) (r : Reference) (offset : Nat) :
    foreignKeys table r.column.chars r.target.chars r.targetColumn.chars offset =
      ([r.relationship table], []) := by
  unfold foreignKeys
  simp only [cleanList_name, clean_id]
  rfl

end References

section Clauses

/-- What a clause makes of the table that is being read. -/
def TableClause.apply (draft : Draft) : TableClause → Draft
  | .column definition => draft.addColumn (definition.column [])
  | .primaryKey names =>
    draft.withColumns (draft.table.columns.map (Core.mark (names.map Name.text)))
  | .unique name => draft.addIndex { columns := [name.text], unique := true }
  | .reference r => draft.addRelationships [r.relationship draft.table.id]

def TableClause.Fits (draft : Draft) : TableClause → Prop
  | .primaryKey names =>
    names ≠ [] ∧ (draft.table.columns.map SchemaText.Column.name).Nodup ∧
      ∀ name ∈ names, name.text ∈ draft.table.columns.map SchemaText.Column.name
  | _ => True

theorem cleanNames_namesText {names : List Name} (h : names ≠ []) :
    Core.cleanNames (namesText names) = names.map Name.text := by
  unfold Core.cleanNames
  rw [cleanList_namesText h, List.map_map]
  rfl

theorem applyClause_column (draft : Draft) (offset : Nat) (column : Column) :
    draft.applyClause ⟨offset, column.chars⟩ = (draft.addColumn (column.column []), []) := by
  obtain ⟨m, hm, hx⟩ := Core.anchored_definition.exists_matchStart (takes_definition column)
  have htail : m.text "tail" = column.tail := text_eq hx "tail"
  have hreferences : ColumnClause.referencesOf draft.table.id offset m = ([], []) := by
    unfold ColumnClause.referencesOf
    rw [htail, search_reference]
  unfold Draft.applyClause Draft.applyColumn readColumn
  simp only [matchStart_opening_column, hm, hreferences, columnOf_eq hx]
  simp [Draft.addRelationships, Draft.addColumn, Draft.withColumns]

theorem applyClause_primaryKey {draft : Draft} (offset : Nat) {names : List Name}
    (h : (TableClause.primaryKey names).Fits draft) :
    draft.applyClause ⟨offset, (TableClause.primaryKey names).chars⟩ =
      ((TableClause.primaryKey names).apply draft, []) := by
  obtain ⟨hne, hnodup, hmem⟩ := h
  have hin : ∀ name ∈ names.map Name.text,
      name ∈ draft.table.columns.map SchemaText.Column.name := by
    intro name hn
    obtain ⟨n, hnames, rfl⟩ := List.mem_map.1 hn
    exact hmem n hnames
  have hmarks := Core.markKeys_eq offset hnodup hin
  have hclause := Core.applyClause_primaryKeyText draft offset (all_inner_namesText names)
  rw [cleanNames_namesText hne] at hclause
  simp only [hmarks] at hclause
  exact hclause

theorem applyClause_unique (draft : Draft) (offset : Nat) (name : Name) :
    draft.applyClause ⟨offset, (TableClause.unique name).chars⟩ =
      ((TableClause.unique name).apply draft, []) := by
  have hnames : Core.cleanNames name.chars = [name.text] := by
    unfold Core.cleanNames
    rw [cleanList_name]
    rfl
  have hclause := Core.applyClause_uniqueText draft offset name.all_inner
  rwa [hnames] at hclause

theorem applyClause_reference (draft : Draft) (offset : Nat) (r : Reference) :
    draft.applyClause ⟨offset, r.chars⟩ =
      (draft.addRelationships [r.relationship draft.table.id], []) := by
  have hopening : (Constraint.opening.matchStart r.chars).isSome := rfl
  have hprimary : Constraint.primaryKey.search r.chars = none :=
    Core.anchored_primaryKey.search_eq_none (.of_forall fun _ _ _ _ _ => rfl)
  unfold Draft.applyClause
  rw [if_pos hopening, Core.applyConstraint_foreignKeyTail draft offset r.keyText
    (takes_foreignKeyTail r) hprimary]
  simp only [Reference.keyText, foreignKeys_eq]

theorem applyClause_eq (draft : Draft) (offset : Nat) {clause : TableClause}
    (h : clause.Fits draft) :
    draft.applyClause ⟨offset, clause.chars⟩ = (clause.apply draft, []) := by
  cases clause with
  | column column => exact applyClause_column draft offset column
  | primaryKey names => exact applyClause_primaryKey offset h
  | unique name => exact applyClause_unique draft offset name
  | reference r => exact applyClause_reference draft offset r

def ClausesFit : Draft → List TableClause → Prop
  | _, [] => True
  | draft, clause :: clauses => clause.Fits draft ∧ ClausesFit (clause.apply draft) clauses

theorem ClausesFit.append {draft : Draft} {first second : List TableClause}
    (h : ClausesFit draft first) (k : ClausesFit (first.foldl TableClause.apply draft) second) :
    ClausesFit draft (first ++ second) := by
  induction first generalizing draft with
  | nil => exact k
  | cons clause first ih => exact ⟨h.1, ih h.2 k⟩

theorem applyClauses_eq {draft : Draft} {clauses : List TableClause} (h : ClausesFit draft clauses)
    {parts : List Clause}
    (hp : parts.map (fun part => part.trim.text) = clauses.map TableClause.chars) :
    draft.applyClauses parts = (clauses.foldl TableClause.apply draft, []) := by
  induction clauses generalizing draft parts with
  | nil =>
    obtain rfl : parts = [] := by simpa using hp
    rfl
  | cons clause clauses ih =>
    obtain ⟨part, parts, rfl⟩ := List.exists_cons_of_ne_nil (l := parts) (by
      rintro rfl
      cases hp)
    obtain ⟨hpart, hparts⟩ := List.cons.inj hp
    rw [Core.applyClauses_cons hpart (firm_clause clause).ne_nil (applyClause_eq draft _ h.1),
      ih h.2 hparts]
    rfl

end Clauses

end SchemaText.Sql.Written
