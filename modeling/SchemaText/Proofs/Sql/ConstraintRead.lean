import SchemaText.Proofs.Pattern.Anchored
import SchemaText.Proofs.Sql.Cleaned
import SchemaText.Proofs.Sql.Matches
import SchemaText.Sql.Draft
/-! The constraints of a table in the core grammar, read from their clauses. -/

namespace SchemaText.Sql.Core

open Pattern Statement
open Text (Stops stops_nil stops_cons isBlank isWord)

section Patterns

def primaryKeyTail : Pattern :=
  Constraint.namePart ++ (phrase ["PRIMARY", "KEY"] ++ wordEdge ++ (gap ++
    Identifier.parenthesised "columns"))

def foreignKeyTail : Pattern :=
  Constraint.namePart ++ (phrase ["FOREIGN", "KEY"] ++ wordEdge ++ keyColumns)

def uniqueTail : Pattern :=
  Constraint.namePart ++ (word "UNIQUE" ++ wordEdge ++
    (optional (blanks ++ (word "KEY" <|> word "INDEX") ++ wordEdge) ++
      (Constraint.indexName ++ (gap ++ Identifier.parenthesised "columns"))))

theorem anchored_primaryKey : Anchored Constraint.primaryKey primaryKeyTail := by
  intro β goOn s
  simp only [Constraint.primaryKey, primaryKeyTail, spaced, phrase, tryAt_append]

theorem anchored_foreignKey : Anchored Constraint.foreignKey foreignKeyTail := by
  intro β goOn s
  simp only [Constraint.foreignKey, foreignKeyTail, keyColumns, spaced, phrase, tryAt_append]

theorem anchored_unique : Anchored Constraint.unique uniqueTail := by
  intro β goOn s
  simp only [Constraint.unique, uniqueTail, spaced, tryAt_append, tryAt_optional]

variable {rest : List Char}

theorem takes_nil_namePart {letters : String}
    (h : letters = "PRIMARY" ∨ letters = "FOREIGN" ∨ letters = "UNIQUE") (rest : List Char) :
    Constraint.namePart.Takes [] (letters.toList ++ rest) [] := by
  refine FailsOn.optional ?_
  have hd : departs "CONSTRAINT".toList letters.toList := by
    rcases h with rfl | rfl | rfl <;> decide
  exact ((failsOn_word_of_departs hd).append _).append _

theorem takes_primaryKeyList {text : List Char} (h : text.all isInner) :
    (phrase ["PRIMARY", "KEY"] ++ wordEdge ++ (gap ++ Identifier.parenthesised "columns")).Takes
      ("PRIMARY KEY ".toList ++ enclosed text) [] [("columns", text)] := by
  have hspace : gap.Takes [' '] (enclosed text ++ []) [] := takes_gap_space (stops_cons.2 rfl)
  have hcolumns := hspace.append (takes_parenthesised "columns" h [])
  have hphrase : (phrase ["PRIMARY", "KEY"] ++ wordEdge).Takes
      ("PRIMARY".toList ++ [' '] ++ "KEY".toList) ([' '] ++ enclosed text ++ []) [] :=
    (takes_phrase "PRIMARY" "KEY" (stops_cons.2 rfl)).append_wordEdge (by decide) (stops_cons.2 rfl)
  have hkey : "PRIMARY KEY ".toList = "PRIMARY".toList ++ [' '] ++ "KEY".toList ++ [' '] := by
    decide
  rw [hkey, List.append_assoc _ [' ']]
  exact hphrase.append hcolumns

theorem takes_primaryKeyTail {text : List Char} (h : text.all isInner) :
    primaryKeyTail.Takes ("PRIMARY KEY ".toList ++ enclosed text) [] [("columns", text)] := by
  have hpart : Constraint.namePart.Takes [] ("PRIMARY KEY ".toList ++ enclosed text ++ []) [] := by
    rw [List.append_assoc]
    exact takes_nil_namePart (.inl rfl) (" KEY ".toList ++ (enclosed text ++ []))
  exact hpart.nil_append (takes_primaryKeyList h)

theorem KeyText.IsKey.takes_foreignKeyTail {key : KeyText} (h : key.IsKey) :
    foreignKeyTail.Takes ("FOREIGN".toList ++ [' '] ++ "KEY".toList ++ key.chars) [] key.texts := by
  have hpart : Constraint.namePart.Takes []
      ("FOREIGN".toList ++ [' '] ++ "KEY".toList ++ key.chars ++ []) [] := by
    simp only [List.append_assoc]
    exact takes_nil_namePart (.inr (.inl rfl)) _
  exact hpart.nil_append h.takes_clause

theorem takes_foreignKeyTail (pairs : List (Word × Word)) (target : Id) :
    foreignKeyTail.Takes (TableClause.foreignKey pairs target).chars []
      [("target_columns", namesText (pairs.map Prod.snd)), ("target", target.chars),
        ("columns", namesText (pairs.map Prod.fst))] := by
  have htext : (TableClause.foreignKey pairs target).chars = _ := foreignKeyText_eq pairs target
  rw [htext]
  exact (isKey_keyText pairs target).takes_foreignKeyTail

theorem takes_uniqueList {text : List Char} (h : text.all isInner) :
    (word "UNIQUE" ++ wordEdge ++ (optional (blanks ++ (word "KEY" <|> word "INDEX") ++ wordEdge) ++
      (Constraint.indexName ++ (gap ++ Identifier.parenthesised "columns")))).Takes
      ("UNIQUE ".toList ++ enclosed text) [] [("columns", text)] := by
  have hspace : gap.Takes [' '] (enclosed text ++ []) [] := takes_gap_space (stops_cons.2 rfl)
  have hcolumns := hspace.append (takes_parenthesised "columns" h [])
  have hindexName : Constraint.indexName.Takes [] ([' '] ++ enclosed text ++ []) [] :=
    FailsOn.optional (.of_forall fun _ _ _ _ _ => rfl)
  have hkind : (optional (blanks ++ (word "KEY" <|> word "INDEX") ++ wordEdge)).Takes []
      ([' '] ++ enclosed text ++ []) [] :=
    FailsOn.optional (.of_forall fun _ _ _ _ _ => rfl)
  have hword : (word "UNIQUE" ++ wordEdge).Takes "UNIQUE".toList
      ([' '] ++ enclosed text ++ []) [] :=
    (takes_word "UNIQUE" _).append_wordEdge (by decide) (stops_cons.2 rfl)
  have hunique : "UNIQUE ".toList = "UNIQUE".toList ++ [' '] := by decide
  rw [hunique, List.append_assoc]
  exact hword.append (hkind.nil_append (hindexName.nil_append hcolumns))

theorem takes_uniqueTail {text : List Char} (h : text.all isInner) :
    uniqueTail.Takes ("UNIQUE ".toList ++ enclosed text) [] [("columns", text)] := by
  have hpart : Constraint.namePart.Takes [] ("UNIQUE ".toList ++ enclosed text ++ []) [] := by
    rw [List.append_assoc]
    exact takes_nil_namePart (.inr (.inr rfl)) (" ".toList ++ (enclosed text ++ []))
  exact hpart.nil_append (takes_uniqueList h)

end Patterns

section Constraints

theorem text_eq {m : Match} {texts : List (String × List Char)} (h : textsOf m = texts)
    (name : String) : m.text name = (texts.lookup name).getD [] := by
  unfold Match.text
  rw [Match.text?_eq_lookup, ← h]
  rfl

theorem text?_eq {m : Match} {texts : List (String × List Char)} (h : textsOf m = texts)
    (name : String) : m.text? name = texts.lookup name := by
  rw [Match.text?_eq_lookup, ← h]
  rfl

theorem cleanName_id (id : Id) : Draft.cleanName id.chars = id.text := by
  unfold Draft.cleanName
  rw [clean_id]
  rfl

def cleanNames (text : List Char) : List String :=
  (Identifier.cleanList text).map String.ofList

theorem cleanNames_namesText {names : List Word} (h : names ≠ []) :
    cleanNames (namesText names) = names.map Word.text := by
  rw [cleanNames, cleanList_namesText h, List.map_map]
  rfl

theorem columnNames_eq {m : Match} {names : List Word} (h : m.text "columns" = namesText names)
    (hne : names ≠ []) : Draft.columnNames m = names.map Word.text := by
  unfold Draft.columnNames
  rw [h]
  exact cleanNames_namesText hne

theorem foreignKeys_eq (table : String) {pairs : List (Word × Word)} (h : pairs ≠ []) (target : Id)
    (offset : Nat) :
    foreignKeys table (namesText (pairs.map Prod.fst)) target.chars
        (namesText (pairs.map Prod.snd)) offset =
      (pairs.map fun pair =>
        { fromTable := table, fromColumn := pair.1.text
          toTable := target.text, toColumn := pair.2.text
          cardinality := .manyToOne }, []) := by
  have hfirst : pairs.map Prod.fst ≠ [] := by simpa using h
  have hsecond : pairs.map Prod.snd ≠ [] := by simpa using h
  unfold foreignKeys
  simp only [cleanList_namesText hfirst, cleanList_namesText hsecond, clean_id]
  rw [if_neg (by simp [h])]
  congr 1
  rw [List.map_map, List.map_map, List.zipWith_map, List.zipWith_self]
  rfl

variable (draft : Draft) (offset : Nat)

theorem applyClauses_cons {draft next : Draft} {part : Clause} {text : List Char}
    (hpart : part.trim.text = text) (hne : text ≠ [])
    (h : draft.applyClause ⟨part.trim.offset, text⟩ = (next, [])) (parts : List Clause) :
    draft.applyClauses (part :: parts) = next.applyClauses parts := by
  have hclause : part.trim = ⟨part.trim.offset, text⟩ := by rw [← hpart]
  rw [Draft.applyClauses, if_neg (by rwa [hpart]), hclause, h]
  rfl

theorem applyConstraint_primaryKeyTail {text columns : List Char}
    (h : primaryKeyTail.Takes text [] [("columns", columns)]) :
    draft.applyConstraint ⟨offset, text⟩ =
      let marked := Draft.markKeys offset (cleanNames columns) draft.table.columns
      (draft.withColumns marked.1, marked.2) := by
  obtain ⟨m, hm, hx⟩ := anchored_primaryKey.exists_matchStart h
  have hcolumns : m.text "columns" = columns := text_eq hx "columns"
  unfold Draft.applyConstraint Draft.columnNames
  simp only [search_of_matchStart hm, hcolumns]
  rfl

theorem applyConstraint_foreignKeyTail {text : List Char} (key : KeyText)
    (h : foreignKeyTail.Takes text [] key.texts) (k : Constraint.primaryKey.search text = none) :
    draft.applyConstraint ⟨offset, text⟩ =
      let keys := foreignKeys draft.table.id key.columns key.target key.targetColumns offset
      (draft.addRelationships keys.1, keys.2) := by
  obtain ⟨m, hm, hx⟩ := anchored_foreignKey.exists_matchStart h
  have hcolumns : m.text "columns" = key.columns := text_eq hx "columns"
  have htarget : m.text "target" = key.target := text_eq hx "target"
  have htargets : m.text "target_columns" = key.targetColumns := text_eq hx "target_columns"
  unfold Draft.applyConstraint
  simp only [k, search_of_matchStart hm, hcolumns, htarget, htargets]

theorem applyClause_primaryKeyText {text : List Char} (h : text.all isInner) :
    draft.applyClause ⟨offset, "PRIMARY KEY ".toList ++ enclosed text⟩ =
      let marked := Draft.markKeys offset (cleanNames text) draft.table.columns
      (draft.withColumns marked.1, marked.2) := by
  have hopening : (Constraint.opening.matchStart ("PRIMARY KEY ".toList ++ enclosed text)).isSome :=
    rfl
  unfold Draft.applyClause
  rw [if_pos hopening]
  exact applyConstraint_primaryKeyTail draft offset (takes_primaryKeyTail h)

theorem applyClause_primaryKey {columns : List Word} (h : columns ≠ []) :
    draft.applyClause ⟨offset, (TableClause.primaryKey columns).chars⟩ =
      let marked := Draft.markKeys offset (columns.map Word.text) draft.table.columns
      (draft.withColumns marked.1, marked.2) := by
  have hclause := applyClause_primaryKeyText draft offset
    (isInner_of_isListChar (all_namesText columns))
  rwa [cleanNames_namesText h] at hclause

theorem applyClause_foreignKey {pairs : List (Word × Word)} (h : pairs ≠ []) (target : Id) :
    draft.applyClause ⟨offset, (TableClause.foreignKey pairs target).chars⟩ =
      (draft.addRelationships (pairs.map fun pair =>
        { fromTable := draft.table.id, fromColumn := pair.1.text
          toTable := target.text, toColumn := pair.2.text
          cardinality := .manyToOne }), []) := by
  have hopening :
      (Constraint.opening.matchStart (TableClause.foreignKey pairs target).chars).isSome :=
    rfl
  have hprimary : Constraint.primaryKey.search (TableClause.foreignKey pairs target).chars = none :=
    anchored_primaryKey.search_eq_none (.of_forall fun _ _ _ _ _ => rfl)
  have hkeys := foreignKeys_eq draft.table.id h target offset
  unfold Draft.applyClause
  rw [if_pos hopening, applyConstraint_foreignKeyTail draft offset (keyText pairs target)
    (takes_foreignKeyTail pairs target) hprimary]
  simp only [keyText, hkeys]

theorem applyClause_uniqueText {text : List Char} (h : text.all isInner) :
    draft.applyClause ⟨offset, "UNIQUE ".toList ++ enclosed text⟩ =
      (draft.addIndex { columns := cleanNames text, unique := true }, []) := by
  have hopening : (Constraint.opening.matchStart ("UNIQUE ".toList ++ enclosed text)).isSome := rfl
  have hfails (q : Pattern) (hq : q = primaryKeyTail ∨ q = foreignKeyTail) :
      q.FailsOn ("UNIQUE ".toList ++ enclosed text) := by
    refine FailsOn.of_forall fun offset before captures β goOn => ?_
    rcases hq with rfl | rfl <;> rfl
  -- The other constraints are looked for first.
  have hprimary := anchored_primaryKey.search_eq_none (hfails _ (.inl rfl))
  have hforeign := anchored_foreignKey.search_eq_none (hfails _ (.inr rfl))
  have hnamed : Constraint.named.matchStart ("UNIQUE ".toList ++ enclosed text) = none := rfl
  obtain ⟨m, hm, hx⟩ := anchored_unique.exists_matchStart (takes_uniqueTail h)
  have hcolumns : m.text "columns" = text := text_eq hx "columns"
  have hname : m.text? "name" = none := text?_eq hx "name"
  unfold Draft.applyClause Draft.applyConstraint Draft.uniqueName? Draft.columnNames
  simp only [hopening, if_true, hprimary, hforeign, search_of_matchStart hm, hcolumns, hname,
    hnamed]
  rfl

theorem applyClause_unique {columns : List Word} (h : columns ≠ []) :
    draft.applyClause ⟨offset, (TableClause.unique columns).chars⟩ =
      (draft.addIndex { columns := columns.map Word.text, unique := true }, []) := by
  have hclause := applyClause_uniqueText draft offset
    (isInner_of_isListChar (all_namesText columns))
  rwa [cleanNames_namesText h] at hclause

end Constraints

end SchemaText.Sql.Core
