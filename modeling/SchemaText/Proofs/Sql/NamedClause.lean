import SchemaText.Proofs.Sql.KeyedColumns
import SchemaText.Proofs.Sql.NameList
/-! The constraint clauses with names: the keyword of a clause says which constraint it is, whatever
the constraint, the index and the columns are named. -/

namespace SchemaText.Sql

open Pattern Statement
open ColumnClause (BareName)
open Sql.Core (enclosed textsOf text_eq text?_eq takes_parenthesised)
open Text (Stops stops_nil stops_cons isBlank isWord)

section Clauses

inductive IndexKeyword where
  | key
  | index

def IndexKeyword.letters : IndexKeyword → String
  | key => "KEY"
  | index => "INDEX"

/-- A foreign key pairs each of its columns with one of the table that it refers to. -/
inductive NamedClause where
  | unique (name : Label) (columns : Several BareName)
  | index (keyword : IndexKeyword) (name : BareName) (columns : Several BareName)
  | primaryKey (name : Label) (columns : Several BareName)
  | foreignKey (name : Label) (pairs : Several (BareName × BareName)) (target : Several BareName)

def Label.introduction (name : Label) : List Char :=
  "CONSTRAINT".toList ++ ([' '] ++ (name.chars ++ [' ']))

def foreignKeyText (pairs : List (BareName × BareName)) (target : Several BareName) : List Char :=
  "FOREIGN KEY ".toList ++ (enclosed (listed (pairs.map Prod.fst)) ++ (" REFERENCES ".toList ++
    (dotted target ++ enclosed (listed (pairs.map Prod.snd)))))

def NamedClause.chars : NamedClause → List Char
  | unique name columns =>
    name.introduction ++ ("UNIQUE ".toList ++ enclosed (listed columns.list))
  | index keyword name columns =>
    keyword.letters.toList ++ ([' '] ++ name.chars ++ ([' '] ++ enclosed (listed columns.list)))
  | primaryKey name columns =>
    name.introduction ++ ("PRIMARY KEY ".toList ++ enclosed (listed columns.list))
  | foreignKey name pairs target => name.introduction ++ foreignKeyText pairs.list target

/-- What the keyword of a clause makes of a draft. All else of the draft stays. -/
def NamedClause.applyTo (draft : Draft) (offset : Nat) : NamedClause → Draft × List Diagnostic
  | unique name columns =>
    ({ draft with
        table := { draft.table with
          indexes := draft.table.indexes ++
            [{ columns := columns.list.map BareName.text, unique := true
               name := some name.text }] } }, [])
  | index _ name columns =>
    ({ draft with
        table := { draft.table with
          indexes := draft.table.indexes ++
            [{ columns := columns.list.map BareName.text, unique := false
               name := some name.text }] } }, [])
  | primaryKey _ columns =>
    let names := columns.list.map BareName.text
    ({ draft with
        table := { draft.table with columns := Draft.keyed names draft.table.columns } },
      (Draft.unknownNames names draft.table.columns).map fun name =>
        (Fault.keyColumnUnknown name).diagnostic offset)
  | foreignKey _ pairs target =>
    ({ draft with
        relationships := draft.relationships ++ pairs.list.map fun pair =>
          { fromTable := draft.table.id, fromColumn := pair.1.text
            toTable := String.ofList (dotted target), toColumn := pair.2.text
            cardinality := .manyToOne } }, [])

end Clauses

section Introductions

variable {q : Pattern} {rest : List Char} (name : Label)

theorem Label.introduction_append (rest : List Char) : name.introduction ++ rest =
    "CONSTRAINT".toList ++ ([' '] ++ (name.chars ++ ([' '] ++ rest))) := by
  unfold introduction
  simp only [List.append_assoc]

theorem Label.takes_introduction (h : Stops isBlank rest) :
    Constraint.namePart.Takes name.introduction rest [] := by
  have hword := (takes_word "CONSTRAINT" _).append (takes_blanks (name.stops ([' '] ++ rest)))
  have hname : Identifier.constraintName.Takes name.chars ([' '] ++ rest) [] :=
    name.takes (stops_cons.2 (by decide))
  have hall := (hword.append hname).append (takes_blanks h)
  have htext : "CONSTRAINT".toList ++ [' '] ++ name.chars ++ [' '] = name.introduction := by
    unfold introduction
    simp only [List.append_assoc]
  rw [htext] at hall
  exact hall.optional

theorem Label.failsOn_introduction (h : Stops isBlank rest) (hq : q.FailsOn rest)
    (hn : q.FailsOn (name.introduction ++ rest)) :
    (Constraint.namePart ++ q).FailsOn (name.introduction ++ rest) := by
  have hrun : (oneOrMore isLabelChar ++ (blanks ++ q)).FailsOn (name.chars ++ ([' '] ++ rest)) := by
    refine failsOn_oneOrMore_append (stops_cons.2 (by decide)) fun front back hb => ?_
    cases back with
    | nil => exact (Bars.space h hq).failsOn
    | cons c back =>
      have hc : isLabelChar c := name.label c (by rw [hb]; simp)
      exact (Bars.stop (stops_cons.2 (isBlank_eq_false_of_isLabelChar hc))).failsOn
  have hname : (Identifier.constraintName ++ (blanks ++ q)).FailsOn
      (name.chars ++ ([' '] ++ rest)) :=
    ((name.failsOn_quoted _).append _).orElse_append hrun
  have hbody :
      (word "CONSTRAINT" ++ (blanks ++ (Identifier.constraintName ++ (blanks ++ q)))).FailsOn
      ("CONSTRAINT".toList ++ ([' '] ++ (name.chars ++ ([' '] ++ rest)))) :=
    failsOn_keyword_append (by decide) (List.all_eq_true.1 (by decide)) (stops_cons.2 rfl)
      fun _ => .space (name.stops _) hname
  refine FailsOn.optional_append ?_ hn
  rw [name.introduction_append]
  refine Agrees.failsOn (fun β goOn s => ?_) hbody
  simp only [tryAt_append]

theorem anchored_named :
    Anchored Constraint.named
      (word "CONSTRAINT" ++ (blanks ++ group "name" Identifier.constraintName)) := by
  intro β goOn s
  simp only [Constraint.named, tryAt_append]

theorem Label.matchStart_named (rest : List Char) :
    ∃ m, Constraint.named.matchStart (name.introduction ++ rest) = some m ∧
      m.text? "name" = some name.chars := by
  have hname : (group "name" Identifier.constraintName).Takes name.chars ([' '] ++ rest)
      [("name", name.chars)] :=
    (name.takes (stops_cons.2 (by decide))).group "name"
  have hall := (takes_word "CONSTRAINT" _).append ((takes_blanks (name.stops _)).append hname)
  obtain ⟨m, hm, hx⟩ := anchored_named.exists_matchStart_append hall
  simp only [List.append_assoc] at hm
  rw [name.introduction_append]
  exact ⟨m, hm, text?_eq hx "name"⟩

end Introductions

section Indexes

variable {rest : List Char}

theorem anchored_index : Anchored Constraint.index ((word "INDEX" <|> word "KEY") ++ wordEdge ++
    (Constraint.indexName ++ (gap ++ Identifier.parenthesised "columns"))) := by
  intro β goOn s
  simp only [Constraint.index, spaced, tryAt_append]

theorem takes_index (keyword : IndexKeyword) (name : BareName) (columns : List BareName) :
    ((word "INDEX" <|> word "KEY") ++ wordEdge ++
      (Constraint.indexName ++ (gap ++ Identifier.parenthesised "columns"))).Takes
      (keyword.letters.toList ++ ([' '] ++ name.chars ++ ([' '] ++ enclosed (listed columns)))) []
      [("columns", listed columns), ("name", name.chars)] := by
  have hspace : gap.Takes [' '] (enclosed (listed columns) ++ []) [] :=
    takes_gap_space (stops_cons.2 rfl)
  have hcolumns := hspace.append (takes_parenthesised "columns" (all_isInner_listed columns) [])
  have hname : (group "name" Identifier.name).Takes name.chars
      ([' '] ++ enclosed (listed columns) ++ []) [("name", name.chars)] :=
    (name.isName.takes (stops_cons.2 (by decide))).group "name"
  have hblanks : blanks.Takes [' '] (name.chars ++ ([' '] ++ enclosed (listed columns) ++ [])) [] :=
    takes_blanks (name.isName.stops _)
  have hindexName : Constraint.indexName.Takes ([' '] ++ name.chars)
      ([' '] ++ enclosed (listed columns) ++ []) [("name", name.chars)] :=
    (hblanks.append hname).optional
  have hword : (word "INDEX" <|> word "KEY").Takes keyword.letters.toList
      ([' '] ++ name.chars ++ ([' '] ++ enclosed (listed columns)) ++ []) [] := by
    cases keyword with
    | index => exact (takes_word "INDEX" _).orElse _
    | key => exact FailsOn.orElse_takes (.of_forall fun _ _ _ _ _ => rfl) (takes_word "KEY" _)
  have hlast : keyword.letters.toList.getLast?.any isWord := by
    cases keyword <;> decide
  exact (hword.append_wordEdge hlast (stops_cons.2 rfl)).append (hindexName.append hcolumns)

end Indexes

section ForeignKeys

def keyText (pairs : List (BareName × BareName)) (target : Several BareName) : Core.KeyText where
  before := [' ']
  columns := listed (pairs.map Prod.fst)
  target := dotted target
  between := []
  targetColumns := listed (pairs.map Prod.snd)

theorem isKey_keyText (pairs : List (BareName × BareName)) (target : Several BareName) :
    (keyText pairs target).IsKey where
  blank_before := by simpa [keyText] using Text.isBlank_space
  inner_columns := all_isInner_listed _
  stops := stops_dotted target
  takes _ := takes_dotted target (stops_cons.2 (by decide)) (.of_forall fun _ _ _ _ _ => rfl)
  blank_between := by simp [keyText]
  inner_targetColumns := all_isInner_listed _

theorem takes_foreignKeyText (pairs : List (BareName × BareName)) (target : Several BareName) :
    (phrase ["FOREIGN", "KEY"] ++ wordEdge ++ Statement.keyColumns).Takes
      (foreignKeyText pairs target) []
      [("target_columns", listed (pairs.map Prod.snd)), ("target", dotted target),
        ("columns", listed (pairs.map Prod.fst))] := by
  have hkeyword : "FOREIGN KEY ".toList = "FOREIGN".toList ++ [' '] ++ "KEY".toList ++ [' '] := by
    decide
  have hreferences : " REFERENCES ".toList = [' '] ++ ("REFERENCES".toList ++ [' ']) := by decide
  have htext : foreignKeyText pairs target =
      "FOREIGN".toList ++ [' '] ++ "KEY".toList ++ (keyText pairs target).chars := by
    unfold foreignKeyText keyText Core.KeyText.chars Core.KeyText.reference
    simp only [hkeyword, hreferences, List.append_assoc, List.nil_append]
  rw [htext]
  exact (isKey_keyText pairs target).takes_clause

theorem foreignKeys_listed (table : String) (pairs : Several (BareName × BareName))
    (target : Several BareName) (offset : Nat) :
    foreignKeys table (listed (pairs.list.map Prod.fst)) (dotted target)
        (listed (pairs.list.map Prod.snd)) offset =
      (pairs.list.map fun pair =>
        { fromTable := table, fromColumn := pair.1.text
          toTable := String.ofList (dotted target), toColumn := pair.2.text
          cardinality := .manyToOne }, []) := by
  have hfirst : pairs.list.map Prod.fst ≠ [] := by simp [pairs.list_ne_nil]
  have hsecond : pairs.list.map Prod.snd ≠ [] := by simp [pairs.list_ne_nil]
  unfold foreignKeys
  simp only [cleanList_listed hfirst, cleanList_listed hsecond, clean_dotted]
  rw [if_neg (by simp [pairs.list_ne_nil])]
  congr 1
  rw [List.map_map, List.map_map, List.zipWith_map, List.zipWith_self]
  rfl

end ForeignKeys

section Applying

variable (draft : Draft) (offset : Nat) (name : Label)

theorem columnNames_listed {m : Match} {columns : Several BareName}
    (h : m.text "columns" = listed columns.list) :
    Draft.columnNames m = columns.list.map BareName.text := by
  unfold Draft.columnNames
  rw [h]
  exact cleanNames_listed columns.list_ne_nil

theorem Label.search_primaryKey {text rest : List Char}
    (h : text = "UNIQUE ".toList ++ rest ∨ text = "FOREIGN KEY ".toList ++ rest) :
    Constraint.primaryKey.search (name.introduction ++ text) = none := by
  refine Core.anchored_primaryKey.search_eq_none (name.failsOn_introduction ?_ ?_ ?_)
  · rcases h with rfl | rfl <;> exact stops_cons.2 (by decide)
  · rcases h with rfl | rfl <;> exact .of_forall fun _ _ _ _ _ => rfl
  · exact .of_forall fun _ _ _ _ _ => rfl

theorem Label.search_foreignKey {rest : List Char} :
    Constraint.foreignKey.search (name.introduction ++ ("UNIQUE ".toList ++ rest)) = none := by
  refine Core.anchored_foreignKey.search_eq_none (name.failsOn_introduction ?_ ?_ ?_)
  · exact stops_cons.2 (by decide)
  · exact .of_forall fun _ _ _ _ _ => rfl
  · exact .of_forall fun _ _ _ _ _ => rfl

theorem applyConstraint_unique (columns : Several BareName) :
    draft.applyConstraint ⟨offset, (NamedClause.unique name columns).chars⟩ =
      (NamedClause.unique name columns).applyTo draft offset := by
  have hchars : (NamedClause.unique name columns).chars =
      name.introduction ++ ("UNIQUE ".toList ++ enclosed (listed columns.list)) := rfl
  have hkeys := (name.takes_introduction (stops_cons.2 (by decide))).append
    (Core.takes_uniqueList (all_isInner_listed columns.list))
  obtain ⟨m, hm, hx⟩ := Core.anchored_unique.exists_matchStart hkeys
  have hcolumns := columnNames_listed (text_eq hx "columns")
  have hname : m.text? "name" = none := text?_eq hx "name"
  obtain ⟨own, hown, htext⟩ :=
    name.matchStart_named ("UNIQUE ".toList ++ enclosed (listed columns.list))
  have hlabel : Draft.uniqueName? (NamedClause.unique name columns).chars m = some name.text := by
    unfold Draft.uniqueName?
    rw [hchars, hname, hown, Option.none_or, Option.bind_some, htext, Option.map_some,
      name.cleanName]
  unfold Draft.applyConstraint
  rw [hchars] at hlabel ⊢
  simp only [name.search_primaryKey (.inl rfl), name.search_foreignKey, search_of_matchStart hm,
    hcolumns, hlabel]
  rfl

theorem applyConstraint_index (keyword : IndexKeyword) (name : BareName)
    (columns : Several BareName) :
    draft.applyConstraint ⟨offset, (NamedClause.index keyword name columns).chars⟩ =
      (NamedClause.index keyword name columns).applyTo draft offset := by
  have hfails (q : Pattern) (hq : q ∈ [Core.primaryKeyTail, Core.foreignKeyTail, Core.uniqueTail]) :
      q.FailsOn (NamedClause.index keyword name columns).chars := by
    refine FailsOn.of_forall fun offset before captures β goOn => ?_
    simp only [List.mem_cons, List.not_mem_nil, or_false] at hq
    cases keyword <;> rcases hq with rfl | rfl | rfl <;> rfl
  have hprimary := Core.anchored_primaryKey.search_eq_none (hfails _ (by simp))
  have hforeign := Core.anchored_foreignKey.search_eq_none (hfails _ (by simp))
  have hunique := Core.anchored_unique.search_eq_none (hfails _ (by simp))
  obtain ⟨m, hm, hx⟩ := anchored_index.exists_matchStart (takes_index keyword name columns.list)
  have hcolumns := columnNames_listed (text_eq hx "columns")
  have hname : m.text? "name" = some name.chars := text?_eq hx "name"
  have hm : Constraint.index.matchStart (NamedClause.index keyword name columns).chars = some m :=
    hm
  unfold Draft.applyConstraint
  simp only [hprimary, hforeign, hunique, search_of_matchStart hm, hcolumns, hname, Option.map_some,
    name.cleanName]
  rfl

theorem applyConstraint_primaryKey (columns : Several BareName) :
    draft.applyConstraint ⟨offset, (NamedClause.primaryKey name columns).chars⟩ =
      (NamedClause.primaryKey name columns).applyTo draft offset := by
  have hkeys := (name.takes_introduction (stops_cons.2 (by decide))).append
    (Core.takes_primaryKeyList (all_isInner_listed columns.list))
  have happly := Core.applyConstraint_primaryKeyTail draft offset hkeys
  rw [cleanNames_listed columns.list_ne_nil, Draft.markKeys_eq_keyed] at happly
  exact happly

theorem applyConstraint_foreignKey (pairs : Several (BareName × BareName))
    (target : Several BareName) :
    draft.applyConstraint ⟨offset, (NamedClause.foreignKey name pairs target).chars⟩ =
      (NamedClause.foreignKey name pairs target).applyTo draft offset := by
  have hkeys := (name.takes_introduction (stops_cons.2 (by decide))).append
    (takes_foreignKeyText pairs.list target)
  have hprimary : Constraint.primaryKey.search
      (name.introduction ++ foreignKeyText pairs.list target) = none :=
    name.search_primaryKey (.inr rfl)
  have happly := Core.applyConstraint_foreignKeyTail draft offset (keyText pairs.list target)
    hkeys hprimary
  simp only [keyText, foreignKeys_listed] at happly
  exact happly

/-- A constraint clause opens as one, and does what its keyword says and nothing else. -/
theorem applyConstraint_namedClause (clause : NamedClause) :
    (Constraint.opening.matchStart clause.chars).isSome ∧
      draft.applyConstraint ⟨offset, clause.chars⟩ = clause.applyTo draft offset := by
  cases clause with
  | unique name columns => exact ⟨rfl, applyConstraint_unique draft offset name columns⟩
  | index keyword name columns =>
    exact ⟨by cases keyword <;> rfl, applyConstraint_index draft offset keyword name columns⟩
  | primaryKey name columns => exact ⟨rfl, applyConstraint_primaryKey draft offset name columns⟩
  | foreignKey name pairs target =>
    exact ⟨rfl, applyConstraint_foreignKey draft offset name pairs target⟩

example : (NamedClause.unique ⟨"primary-key".toList, by decide, List.all_eq_true.1 (by decide)⟩
    ⟨⟨"index".toList, by decide, List.all_eq_true.1 (by decide)⟩,
      [⟨"key".toList, by decide, List.all_eq_true.1 (by decide)⟩]⟩).chars =
      "CONSTRAINT primary-key UNIQUE (index, key)".toList := by
  decide

end Applying

end SchemaText.Sql
