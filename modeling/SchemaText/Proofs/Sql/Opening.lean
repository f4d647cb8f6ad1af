import SchemaText.Proofs.Pattern.Silent
import SchemaText.Sql.Statement
/-! How the statements open, and the ends of words behind which none of them goes on. -/

namespace SchemaText.Sql.Statement

open Pattern
open Diagram (isPlain)
open Text (Stops stops_cons isBlank isWord)

section Keyed

def tableClosing : Pattern :=
  char ')' ++ (gap ++ (group "options" (most fun c => c ≠ ';' && c ≠ '(' && c ≠ ')') ++ char ';'))

def tableTail : Pattern :=
  ifNotExists ++ (gap ++ (group "table" Identifier.qualifiedName ++ (gap ++ (char '(' ++
    (group "body" (fewest fun _ => true) ++ tableClosing)))))

def temporaryTail : Pattern :=
  optional (word "ORARY") ++ (blanks ++ (word "TABLE" ++ (blanks ++ tableTail)))

def createTableTail : Pattern :=
  optional (optional (word "GLOBAL" ++ blanks <|> word "LOCAL" ++ blanks) ++
    (word "TEMP" ++ optional (word "ORARY") ++ blanks)) ++ (word "TABLE" ++ (blanks ++ tableTail))

def indexColumns : Pattern :=
  group "table" Identifier.qualifiedName ++ (gap ++
    (optional (word "USING" ++ blanks ++ oneOrMore Text.isWord) ++ (gap ++
      (Identifier.parenthesised "columns" ++ (gap ++ ending)))))

def indexTail : Pattern :=
  optional (word "CONCURRENTLY" ++ blanks) ++ (ifNotExists ++ (gap ++
    (optional (group "name" Identifier.qualifiedName ++ blanks) ++ (word "ON" ++ (blanks ++
      (optional (word "ONLY" ++ blanks) ++ indexColumns))))))

def createIndexTail : Pattern :=
  optional (group "unique" (word "UNIQUE" ++ blanks)) ++ (word "INDEX" ++ (blanks ++ indexTail))

def keyColumns : Pattern :=
  gap ++ (Identifier.parenthesised "columns" ++ (gap ++ referencePattern))

def addedKey : Pattern :=
  group "table" Identifier.qualifiedName ++ (blanks ++ (word "ADD" ++ (blanks ++ (gap ++
    (optional (word "CONSTRAINT" ++ blanks ++ Identifier.constraintName ++ blanks) ++
      (phrase ["FOREIGN", "KEY"] ++ (keyColumns ++ (gap ++ ending))))))))

def keyTail : Pattern :=
  optional (word "ONLY" ++ blanks) ++ addedKey

def addForeignKeyTail : Pattern :=
  word "TABLE" ++ (blanks ++ keyTail)

def enumTail : Pattern :=
  group "name" Identifier.qualifiedName ++ (blanks ++ (phrase ["AS", "ENUM"] ++ (gap ++
    (char '(' ++ (group "values" enumValues ++ (char ')' ++ (gap ++ char ';')))))))

def createEnumTail : Pattern :=
  word "TYPE" ++ (blanks ++ enumTail)

theorem tryAt_append {β : Type} (goOn : Spot → Option β) (p q : Pattern) :
    (p ++ q).tryAt goOn = p.tryAt (q.tryAt goOn) := rfl

theorem tryAt_optional {β : Type} (goOn : Spot → Option β) (p : Pattern) :
    (Pattern.optional p).tryAt goOn = fun s => p.tryAt goOn s <|> goOn s := rfl

-- The two sides group the parts of a sequence differently, which makes no difference to a try.
theorem agrees_createTable : createTable.Agrees (keyed "CREATE" createTableTail) := by
  intro β goOn s
  simp only [createTable, keyed, createTableTail, tableTail, tableClosing, spaced, tryAt_append,
    tryAt_optional]

theorem agrees_createIndex : createIndex.Agrees (keyed "CREATE" createIndexTail) := by
  intro β goOn s
  simp only [createIndex, keyed, createIndexTail, indexTail, indexColumns, spaced, tryAt_append,
    tryAt_optional]

theorem agrees_addForeignKey : addForeignKey.Agrees (keyed "ALTER" addForeignKeyTail) := by
  intro β goOn s
  simp only [addForeignKey, keyed, addForeignKeyTail, keyTail, addedKey, keyColumns, spaced, phrase,
    tryAt_append, tryAt_optional]

theorem agrees_createEnum : createEnum.Agrees (keyed "CREATE" createEnumTail) := by
  intro β goOn s
  simp only [createEnum, keyed, createEnumTail, enumTail, spaced, phrase, tryAt_append]

end Keyed

section WordEnds

def typeEnds : List String :=
  ["NOT NULL", "PRIMARY KEY", "UNIQUE,", "UNIQUE)", "UNIQUE NOT NULL", "UNIQUE UNIQUE",
    "UNIQUE PRIMARY KEY"]

def nameEnds : List String :=
  ["(", "ON ", "ADD ", "AS ENUM"]

def spacedEnds : List String :=
  nameEnds ++ typeEnds

inductive WordEnd (ends : List String) : List Char → Prop where
  | mark {c : Char} (h : c ∈ ['(', ')', ',', '.', '\'']) (rest : List Char) :
    WordEnd ends (c :: rest)
  | space {e : String} (h : e ∈ ends) (rest : List Char) :
    WordEnd ends (' ' :: (e.toList ++ rest))

def Rejects (ends : List String) (q : Pattern) : Prop :=
  ∀ e ∈ ends, ∀ rest, q.FailsOn (e.toList ++ rest)

def unspaced (ends : List String) : Bool :=
  ends.all fun e => e.toList.head?.any fun c => !isBlank c

variable {ends : List String} {q : Pattern} {rest text : List Char}

theorem WordEnd.stops (h : WordEnd ends rest) : Stops isWord rest := by
  cases h with
  | mark h rest =>
    simp only [List.mem_cons, List.not_mem_nil, or_false] at h
    rcases h with rfl | rfl | rfl | rfl | rfl <;> exact stops_cons.2 rfl
  | space h rest => exact stops_cons.2 rfl

theorem stops_of_unspaced (hu : unspaced ends) {e : String} (h : e ∈ ends) (rest : List Char) :
    Stops isBlank (e.toList ++ rest) := by
  have he := List.all_eq_true.1 hu e h
  cases hc : e.toList with
  | nil => simp [hc] at he
  | cons c cs => simpa [hc] using he

theorem WordEnd.bars (h : WordEnd ends rest) (hu : unspaced ends) (hq : Rejects ends q) :
    q.Bars rest := by
  cases h with
  | mark h rest =>
    simp only [List.mem_cons, List.not_mem_nil, or_false] at h
    rcases h with rfl | rfl | rfl | rfl | rfl <;> exact .stop (stops_cons.2 rfl)
  | space h rest => exact .space (stops_of_unspaced hu h rest) (hq _ h rest)

theorem rejects_word {letters : String} (h : ends.all fun e => departs letters.toList e.toList)
    (q : Pattern) : Rejects ends (word letters ++ q) :=
  fun e he _ => failsOn_word_of_departs (List.all_eq_true.1 h e he)

theorem WordEnd.spaced (h : WordEnd typeEnds rest) : WordEnd spacedEnds rest := by
  cases h with
  | mark h rest => exact .mark h rest
  | space h rest => exact .space (List.mem_append_right _ h) rest

theorem rejects_typeEnds
    (h : q = tableTail ∨ q = indexTail ∨ q = keyTail ∨ q = enumTail) : Rejects typeEnds q := by
  intro e he rest
  refine FailsOn.of_forall fun offset before captures β goOn => ?_
  -- Each text is closed up to where the pattern fails, and so it can be tried out.
  simp only [typeEnds, List.mem_cons, List.not_mem_nil, or_false] at he
  rcases h with rfl | rfl | rfl | rfl <;>
    rcases he with rfl | rfl | rfl | rfl | rfl | rfl | rfl <;> rfl

theorem rejects_spacedEnds (h : q = createTableTail ∨ q = createIndexTail) :
    Rejects spacedEnds q := by
  intro e he rest
  refine FailsOn.of_forall fun offset before captures β goOn => ?_
  simp only [spacedEnds, nameEnds, typeEnds, List.mem_append, List.mem_cons, List.not_mem_nil,
    or_false] at he
  rcases h with rfl | rfl <;>
    rcases he with (rfl | rfl | rfl | rfl) | rfl | rfl | rfl | rfl | rfl | rfl | rfl <;> rfl

end WordEnds

def fixedTexts : List String :=
  [" ", ".", ",", ", ", "'", "(", ")", ";", "\n", " NOT NULL", " UNIQUE", " PRIMARY KEY",
    "PRIMARY KEY ", "FOREIGN KEY ", " REFERENCES ", "UNIQUE ", " ON ", " ADD ", " AS ENUM "]

structure Opens (letters : String) (q : Pattern) : Prop where
  plain : letters.toList.all isPlain
  avoids_fixedTexts : fixedTexts.all fun text => avoids letters.toList text.toList
  rejects : Rejects spacedEnds q
  /-- No type in the place of the second keyword lets the statement go on. -/
  fails_type : ∀ {type rest : List Char}, (∀ c ∈ type, isPlain c) → WordEnd typeEnds rest →
    q.FailsOn (type ++ rest)

section Openings

variable {letters : String} {q : Pattern} {type rest : List Char}

theorem failsOn_keyword_type (hl : letters.toList.all isPlain) (hq : Rejects typeEnds q)
    (ht : ∀ c ∈ type, isPlain c) (h : WordEnd typeEnds rest) :
    (word letters ++ (blanks ++ q)).FailsOn (type ++ rest) :=
  failsOn_keyword_append hl ht h.stops fun _ => h.bars (by decide) hq

theorem failsOn_temporaryTail (ht : ∀ c ∈ type, isPlain c) (h : WordEnd typeEnds rest) :
    (word "TEMP" ++ temporaryTail).FailsOn (type ++ rest) := by
  intro s hs
  refine fails_append fun t hw => ?_
  obtain ⟨front, back, rfl, _, hb⟩ := word_meets hw hs (by decide) h.stops
  have hback : ∀ c ∈ back, isPlain c := fun c hc => ht c (List.mem_append_right _ hc)
  -- A type may start with `TEMP`, so the second half of the keyword is looked for in its rest.
  have hbars : (word "TABLE" ++ (blanks ++ tableTail)).Bars (back ++ rest) := by
    by_cases hne : back = []
    · subst hne
      exact h.bars (by decide) (rejects_word (by decide) _)
    · exact bars_append_of_ne_nil hback hne rest
  have hlong : (word "ORARY" ++ (blanks ++ (word "TABLE" ++ (blanks ++ tableTail)))).FailsOn
      (back ++ rest) :=
    failsOn_keyword_type (by decide) (rejects_word (by decide) _) hback h
  exact hlong.optional_append hbars.failsOn t hb

theorem opens_createTable : Opens "CREATE" createTableTail where
  plain := by decide
  avoids_fixedTexts := by decide
  rejects := rejects_spacedEnds (.inl rfl)
  fails_type ht h := by
    have htable : (word "TABLE" ++ (blanks ++ tableTail)).FailsOn (_ ++ _) :=
      failsOn_keyword_type (by decide) (rejects_typeEnds (.inl rfl)) ht h
    have htemp := failsOn_temporaryTail ht h
    have hscope : ((word "GLOBAL" ++ blanks <|> word "LOCAL" ++ blanks) ++
        (word "TEMP" ++ temporaryTail)).FailsOn (_ ++ _) :=
      FailsOn.orElse_append (failsOn_keyword_type (by decide) (rejects_word (by decide) _) ht h)
        (failsOn_keyword_type (by decide) (rejects_word (by decide) _) ht h)
    refine FailsOn.optional_append ?_ htable
    exact hscope.optional_append htemp

theorem opens_createIndex : Opens "CREATE" createIndexTail where
  plain := by decide
  avoids_fixedTexts := by decide
  rejects := rejects_spacedEnds (.inr rfl)
  fails_type ht h := by
    have hindex : (word "INDEX" ++ (blanks ++ indexTail)).FailsOn (_ ++ _) :=
      failsOn_keyword_type (by decide) (rejects_typeEnds (.inr (.inl rfl))) ht h
    refine FailsOn.optional_append ?_ hindex
    exact failsOn_group_keyword_append _ (by decide) ht h.stops fun _ =>
      h.bars (by decide) (rejects_word (by decide) _)

theorem opens_addForeignKey : Opens "ALTER" addForeignKeyTail where
  plain := by decide
  avoids_fixedTexts := by decide
  rejects := rejects_word (by decide) _
  fails_type ht h :=
    failsOn_keyword_type (by decide) (rejects_typeEnds (.inr (.inr (.inl rfl)))) ht h

theorem opens_createEnum : Opens "CREATE" createEnumTail where
  plain := by decide
  avoids_fixedTexts := by decide
  rejects := rejects_word (by decide) _
  fails_type ht h :=
    failsOn_keyword_type (by decide) (rejects_typeEnds (.inr (.inr (.inr rfl)))) ht h

end Openings

end SchemaText.Sql.Statement
