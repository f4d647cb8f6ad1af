import SchemaText.Proofs.Sql.ClauseText
import SchemaText.Proofs.Sql.ConstraintRead
/-! The columns of a table in the core grammar, read from their clauses. -/

namespace SchemaText.Sql.Core

open Pattern Statement
open Diagram (isPlain)
open Text (Stops stops_nil stops_cons isBlank isWord)

def ColumnDefinition.opensConstraint (column : ColumnDefinition) : Bool :=
  ["CONSTRAINT", "UNIQUE", "INDEX", "KEY"].any (spells · column.name.chars) ||
    ["PRIMARY", "FOREIGN"].any (spells · column.name.chars) && spells "KEY" column.type.word.chars

section Opening

def constraintKeyword : Pattern :=
  word "CONSTRAINT" <|> phrase ["PRIMARY", "KEY"] <|> phrase ["FOREIGN", "KEY"] <|>
    word "UNIQUE" <|> word "INDEX" <|> word "KEY"

theorem anchored_opening : Anchored Constraint.opening (constraintKeyword ++ wordEdge) := by
  intro β goOn s
  simp only [Constraint.opening, constraintKeyword, tryAt_append]

theorem flagsText_eq (flags : List Flag) :
    flags.flatMap Flag.chars = [] ∨ ∃ c text, flags.flatMap Flag.chars = ' ' :: c :: text ∧
      isBlank c = false := by
  cases flags with
  | nil => exact .inl rfl
  | cons flag flags =>
    rw [List.flatMap_cons]
    cases flag with
    | notNull => exact .inr ⟨'N', _, rfl, by decide⟩
    | unique => exact .inr ⟨'U', _, rfl, by decide⟩
    | primaryKey => exact .inr ⟨'P', _, rfl, by decide⟩

theorem exists_type_rest (column : ColumnDefinition) :
    ∃ rest, column.type.chars ++ column.flags.flatMap Flag.chars =
      column.type.word.chars ++ rest ∧ Stops isWord rest := by
  unfold TypeName.chars
  rw [List.append_assoc]
  refine ⟨_, rfl, ?_⟩
  split
  · rcases flagsText_eq column.flags with h | ⟨c, text, h, _⟩
    · rw [h]
      exact stops_nil _
    · rw [h]
      exact stops_cons.2 rfl
  · exact stops_cons.2 rfl

theorem failsOn_constraintKeyword {text : List Char}
    (hw : ∀ letters ∈ ["CONSTRAINT", "UNIQUE", "INDEX", "KEY"],
      (word letters ++ wordEdge).FailsOn text)
    (hp : ∀ letters ∈ ["PRIMARY", "FOREIGN"],
      (word letters ++ (blanks ++ (word "KEY" ++ wordEdge))).FailsOn text) :
    (constraintKeyword ++ wordEdge).FailsOn text := by
  have hphrase (letters : String) (hl : letters ∈ ["PRIMARY", "FOREIGN"]) :
      (phrase [letters, "KEY"] ++ wordEdge).FailsOn text :=
    fun s hs _ goOn => hp letters hl s hs goOn
  have hindexes := (hw "INDEX" (by decide)).orElse_append (hw "KEY" (by decide))
  have huniques := (hw "UNIQUE" (by decide)).orElse_append hindexes
  have hkeys := (hphrase "PRIMARY" (by decide)).orElse_append
    ((hphrase "FOREIGN" (by decide)).orElse_append huniques)
  exact (hw "CONSTRAINT" (by decide)).orElse_append hkeys

theorem matchStart_opening_column {column : ColumnDefinition}
    (h : column.opensConstraint = false) :
    Constraint.opening.matchStart column.chars = none := by
  obtain ⟨rest, hr, hstops⟩ := exists_type_rest column
  unfold ColumnDefinition.opensConstraint at h
  rw [Bool.or_eq_false_iff, Bool.and_eq_false_iff] at h
  obtain ⟨hwords, hpair⟩ := h
  have hfalse {letters : String} {all : List String}
      (k : all.any (spells · column.name.chars) = false) (hl : letters ∈ all) :
      spells letters column.name.chars = false := by
    simpa using List.any_eq_false.1 k letters hl
  -- Every keyword of a constraint fails at the name, or at the type behind it.
  refine anchored_opening.matchStart_eq_none (failsOn_constraintKeyword (fun letters hl => ?_)
    fun letters hl => ?_)
  · have hplain : letters.toList.all isPlain ∧ letters.toList ≠ [] := by
      simp only [List.mem_cons, List.not_mem_nil, or_false] at hl
      rcases hl with rfl | rfl | rfl | rfl <;> decide
    exact failsOn_word_wordEdge hplain.1 hplain.2 column.name.plain (stops_cons.2 rfl)
      (hfalse hwords hl)
  · have hplain : letters.toList.all isPlain := by
      simp only [List.mem_cons, List.not_mem_nil, or_false] at hl
      rcases hl with rfl | rfl <;> decide
    refine failsOn_keyword_append hplain column.name.plain (stops_cons.2 rfl) fun hspells => ?_
    rcases hpair with hs | hs
    · rw [hfalse hs hl] at hspells
      cases hspells
    · refine .space ?_ ?_
      · rw [hr]
        exact column.type.word.stops rest
      · rw [hr]
        exact failsOn_word_wordEdge (by decide) (by decide) column.type.word.plain hstops hs

end Opening

section Definition

def typePattern : Pattern :=
  oneOrMore isWord ++ optional (char '(' ++ most (· ≠ ')') ++ char ')')

def definitionTail : Pattern :=
  group "name" Identifier.name ++ (blanks ++ (group "type" typePattern ++ (gap ++
    (group "tail" (most fun _ => true) ++ textEnd))))

theorem anchored_definition : Anchored ColumnClause.definition definitionTail := by
  intro β goOn s
  simp only [ColumnClause.definition, definitionTail, typePattern, spaced, tryAt_append]

def tailText (flags : List Flag) : List Char :=
  (flags.flatMap Flag.chars).drop 1

theorem takes_typeWord (w : Word) {rest : List Char} (hw : Stops isWord rest)
    (hp : Stops (· == '(') rest) : typePattern.Takes w.chars rest [] := by
  have harguments : (optional (char '(' ++ most (· ≠ ')') ++ char ')')).Takes [] rest [] :=
    FailsOn.optional (((failsOn_one hp).append _).append _)
  exact (takes_oneOrMore w.ne_nil w.isWord_of_mem hw).append_nil harguments

theorem takes_typeEnclosed (w : Word) {text : List Char} (h : ∀ c ∈ text, c ≠ ')')
    (rest : List Char) : typePattern.Takes (w.chars ++ enclosed text) rest [] := by
  have hmost : (most fun c => decide (c ≠ ')')).Takes text ([')'] ++ rest) [] :=
    takes_most (fun c hc => by simpa using h c hc) (stops_cons.2 (by decide))
  have harguments := ((takes_char '(' _).append hmost).append (takes_char ')' rest)
  have hword : (oneOrMore isWord).Takes w.chars (['('] ++ text ++ [')'] ++ rest) [] :=
    takes_oneOrMore w.ne_nil w.isWord_of_mem (stops_cons.2 rfl)
  exact hword.append harguments.optional

theorem takes_type (type : TypeName) (flags : List Flag) :
    typePattern.Takes type.chars (flags.flatMap Flag.chars) [] := by
  unfold TypeName.chars
  split
  · have hstops : Stops isWord (flags.flatMap Flag.chars) ∧
        Stops (· == '(') (flags.flatMap Flag.chars) := by
      rcases flagsText_eq flags with h | ⟨c, text, h, _⟩
      · rw [h]
        exact ⟨stops_nil _, stops_nil _⟩
      · rw [h]
        exact ⟨stops_cons.2 rfl, stops_cons.2 rfl⟩
    rw [List.append_nil]
    exact takes_typeWord type.word hstops.1 hstops.2
  · refine takes_typeEnclosed type.word (fun c hc => ?_) _
    have hall : ([','].intercalate (type.arguments.map Word.chars)).all isListChar := by
      refine all_intercalate (by decide) fun part hp => ?_
      obtain ⟨w, _, rfl⟩ := List.mem_map.1 hp
      exact w.all isListChar_of_isPlain
    rintro rfl
    exact absurd (List.all_eq_true.1 hall _ hc) (by decide)

theorem takes_pieces {name space type between tail : List Char}
    (hname : Identifier.name.Takes name (space ++ (type ++ (between ++ tail))) [])
    (hne : space ≠ []) (hs : ∀ c ∈ space, isBlank c)
    (htype : typePattern.Takes type (between ++ tail) [])
    (hb : Stops isBlank (type ++ (between ++ tail))) (hg : ∀ c ∈ between, isBlank c)
    (ht : Stops isBlank tail) :
    definitionTail.Takes (name ++ (space ++ (type ++ (between ++ tail)))) []
      [("tail", tail), ("type", type), ("name", name)] := by
  have hend : textEnd.Takes [] [] [] := takes_nothing fun _ hs => leads_textEnd hs
  have hmost : (most fun _ => true).Takes tail [] [] := takes_most (by simp) (stops_nil _)
  have htail : (group "tail" (most fun _ => true) ++ textEnd).Takes tail [] [("tail", tail)] :=
    (hmost.group "tail").append_nil hend
  rw [← List.append_nil tail] at hname htype hb ht
  have hgap : gap.Takes between (tail ++ []) [] := takes_most hg ht
  have hblanks : blanks.Takes space (type ++ (between ++ (tail ++ []))) [] :=
    takes_oneOrMore hne hs hb
  rw [← List.append_assoc between] at hname htype hblanks
  rw [← List.append_assoc type] at hname hblanks
  rw [← List.append_assoc space] at hname
  exact (hname.group "name").append
    (hblanks.append ((htype.group "type").append (hgap.append htail)))

theorem takes_definitionTail {name type after : List Char}
    (hname : Identifier.name.Takes name ([' '] ++ (type ++ after)) [])
    (htype : typePattern.Takes type after []) (hb : Stops isBlank (type ++ after))
    (ha : after = [] ∨ ∃ c text, after = ' ' :: c :: text ∧ isBlank c = false) :
    definitionTail.Takes (name ++ ' ' :: (type ++ after)) []
      [("tail", after.drop 1), ("type", type), ("name", name)] := by
  have hspace : ∀ c ∈ [' '], isBlank c := by simpa using Text.isBlank_space
  have hne : [' '] ≠ [] := List.cons_ne_nil _ _
  rcases ha with rfl | ⟨c, text, rfl, hc⟩
  · have hnone : ∀ c ∈ ([] : List Char), isBlank c := by simp
    exact @takes_pieces name [' '] type [] [] hname hne hspace htype hb hnone (stops_nil _)
  · exact @takes_pieces name [' '] type [' '] (c :: text) hname hne hspace htype hb hspace
      (stops_cons.2 hc)

theorem takes_definition (column : ColumnDefinition) :
    definitionTail.Takes column.chars []
      [("tail", tailText column.flags), ("type", column.type.chars),
        ("name", column.name.chars)] := by
  obtain ⟨rest, hr, _⟩ := exists_type_rest column
  refine takes_definitionTail (takes_name column.name (stops_cons.2 rfl))
    (takes_type column.type column.flags) ?_ (flagsText_eq column.flags)
  rw [hr]
  exact column.type.word.stops rest

end Definition

section Flags

def flagLists : List (List Flag) :=
  [[], [.notNull], [.unique], [.primaryKey], [.notNull, .unique], [.notNull, .primaryKey],
    [.unique, .notNull], [.unique, .primaryKey], [.primaryKey, .notNull], [.primaryKey, .unique],
    [.notNull, .unique, .primaryKey], [.notNull, .primaryKey, .unique],
    [.unique, .notNull, .primaryKey], [.unique, .primaryKey, .notNull],
    [.primaryKey, .notNull, .unique], [.primaryKey, .unique, .notNull]]

theorem mem_flagLists {flags : List Flag} (h : flags.Nodup) : flags ∈ flagLists := by
  match flags with
  | [] => decide
  | [a] => cases a <;> decide
  | [a, b] => revert h; cases a <;> cases b <;> decide
  | [a, b, c] => revert h; cases a <;> cases b <;> cases c <;> decide
  | a :: b :: c :: d :: _ =>
    exfalso
    cases a <;> cases b <;> cases c <;> cases d <;> simp at h

theorem searches_tailText {flags : List Flag} (h : flags.Nodup) :
    (ColumnClause.primaryKey.search (tailText flags)).isSome = flags.contains .primaryKey ∧
    (ColumnClause.notNull.search (tailText flags)).isSome = flags.contains .notNull ∧
    (ColumnClause.unique.search (tailText flags)).isSome = flags.contains .unique ∧
    (ColumnClause.autoIncrement.search (tailText flags)).isSome = false ∧
    ColumnClause.default.search (tailText flags) = none ∧
    ColumnClause.comment.search (tailText flags) = none ∧
    ColumnClause.reference.search (tailText flags) = none := by
  -- There are sixteen lists of flags, and each of them can be searched.
  have hm := mem_flagLists h
  simp only [flagLists, List.mem_cons, List.not_mem_nil, or_false] at hm
  rcases hm with rfl | rfl | rfl | rfl | rfl | rfl | rfl | rfl | rfl | rfl | rfl | rfl | rfl | rfl |
    rfl | rfl <;> decide +kernel

end Flags

section Columns

theorem toNat_lt_of_isStemChar {c : Char} (h : isStemChar c) : c.toNat < 128 := by
  unfold isStemChar at h
  rcases Bool.or_eq_true_iff.1 h with h | h
  · have := Diagram.toNat_of_isPlain h
    omega
  · simp only [List.contains_eq_mem, List.mem_cons, List.not_mem_nil, or_false,
      decide_eq_true_eq] at h
    rcases h with rfl | rfl | rfl | rfl | rfl | rfl <;> decide

theorem lower_type (type : TypeName) : Text.lower type.chars = type.chars.map Char.toLower :=
  Text.lower_of_ascii fun c hc => toNat_lt_of_isStemChar (List.all_eq_true.1 type.all_stem c hc)

theorem takeWhile_type (type : TypeName) :
    (type.chars.map Char.toLower).takeWhile (· ≠ '(') = type.word.chars.map Char.toLower := by
  have hword : ∀ c ∈ type.word.chars.map Char.toLower, (fun c : Char => decide (c ≠ '(')) c := by
    intro c hc
    obtain ⟨d, hd, rfl⟩ := List.mem_map.1 hc
    have hp := Text.isPlain_toLower.2 (type.word.plain d hd)
    simpa using ne_of_isPlain hp (by decide)
  have hstops : Stops (fun c : Char => decide (c ≠ '(')) ((if type.arguments = [] then []
      else enclosed ([','].intercalate (type.arguments.map Word.chars))).map Char.toLower) := by
    split
    · exact stops_nil _
    · exact stops_cons.2 (by decide)
  unfold TypeName.chars
  rw [List.map_append]
  exact (Text.takeWhile_append_of_stops hword hstops).1

theorem columnOf_eq {m : Match} {column : ColumnDefinition}
    (h : textsOf m = [("tail", tailText column.flags), ("type", column.type.chars),
      ("name", column.name.chars)]) (hf : column.flags.Nodup) :
    ColumnClause.columnOf m = column.column [] := by
  have hname : m.text "name" = column.name.chars := text_eq h "name"
  have htype : m.text "type" = column.type.chars := text_eq h "type"
  have htail : m.text "tail" = tailText column.flags := text_eq h "tail"
  obtain ⟨hkey, hnull, hunique, hauto, hdefault, hcomment, _⟩ := searches_tailText hf
  unfold ColumnClause.columnOf ColumnClause.defaultOf ColumnDefinition.column
  simp only [hname, htype, htail, hkey, hnull, hunique, hauto, hdefault, hcomment, lower_type,
    takeWhile_type, clean_word]
  simp [Word.text, TypeName.text]

theorem applyClause_column (draft : Draft) (offset : Nat) {column : ColumnDefinition}
    (h : column.opensConstraint = false) (hf : column.flags.Nodup) :
    draft.applyClause ⟨offset, (TableClause.column column).chars⟩ =
      (draft.addColumn (column.column []), []) := by
  have htext : (TableClause.column column).chars = column.chars := rfl
  obtain ⟨m, hm, hx⟩ := anchored_definition.exists_matchStart (takes_definition column)
  have htail : m.text "tail" = tailText column.flags := text_eq hx "tail"
  have hreferences : ColumnClause.referencesOf draft.table.id offset m = ([], []) := by
    obtain ⟨_, _, _, _, _, _, hnone⟩ := searches_tailText hf
    unfold ColumnClause.referencesOf
    rw [htail, hnone]
  unfold Draft.applyClause Draft.applyColumn readColumn
  simp only [htext, matchStart_opening_column h, hm, hreferences, columnOf_eq hx hf]
  simp [Draft.addRelationships, Draft.addColumn, Draft.withColumns]

end Columns

end SchemaText.Sql.Core
