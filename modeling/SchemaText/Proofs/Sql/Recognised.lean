import SchemaText.Proofs.Sql.LiteralText
import SchemaText.Proofs.Sql.NameText
import SchemaText.Proofs.Sql.TextCharacters
/-! The definitions of the core grammar, as the statement patterns take them. -/

namespace SchemaText.Sql.Core

open Pattern Statement
open Diagram (isPlain)
open Text (Stops stops_nil stops_cons isBlank isWord)

variable {rest : List Char}

section Parts

def isInner (c : Char) : Bool :=
  c ≠ '(' && c ≠ ')'

theorem isInner_of_isListChar {text : List Char} (h : text.all isListChar) : text.all isInner := by
  refine List.all_eq_true.2 fun c hc => ?_
  have hl := List.all_eq_true.1 h c hc
  simp only [isInner, Bool.and_eq_true, decide_eq_true_eq]
  constructor
  · rintro rfl
    exact absurd hl (by decide)
  · rintro rfl
    exact absurd hl (by decide)

theorem takes_parenthesised (name : String) {text : List Char} (h : text.all isInner)
    (rest : List Char) :
    (Identifier.parenthesised name).Takes (enclosed text) rest [(name, text)] := by
  have hstops : Stops (fun c => c ≠ '(' && c ≠ ')') (')' :: rest) := stops_cons.2 rfl
  have hmost := takes_most (List.all_eq_true.1 h) hstops
  exact ((takes_char '(' _).append (hmost.group name)).append (takes_char ')' rest)

theorem takes_names (name : String) (names : List Word) (rest : List Char) :
    (Identifier.parenthesised name).Takes (enclosed (namesText names)) rest
      [(name, namesText names)] :=
  takes_parenthesised name (isInner_of_isListChar (all_namesText names)) rest

theorem takes_ending (rest : List Char) : ending.Takes [';'] rest [] := by
  have hmost : (most (· ≠ ';')).Takes [] (';' :: rest) [] :=
    takes_most (by simp) (stops_cons.2 rfl)
  exact hmost.nil_append (takes_char ';' rest)

theorem takes_phrase (first second : String) (h : Stops isBlank (second.toList ++ rest)) :
    (phrase [first, second]).Takes (first.toList ++ [' '] ++ second.toList) rest [] :=
  ((takes_word first _).append (takes_blanks h)).append (takes_word second rest)

theorem takes_table (name : String) (id : Id) (h : IdEnd rest) :
    (group name Identifier.qualifiedName).Takes id.chars rest [(name, id.chars)] :=
  (takes_id id h).group name

theorem takes_blanks_id (id : Id) (taken rest : List Char) :
    blanks.Takes [' '] (id.chars ++ taken ++ rest) [] := by
  rw [List.append_assoc]
  exact takes_blanks (id.stops _)

theorem takes_nil_ifNotExists (id : Id) (h : IdEnd rest) :
    ifNotExists.Takes [] (id.chars ++ rest) [] := by
  have hf : (word "IF" ++ (blanks ++ (phrase ["NOT", "EXISTS"] ++ blanks))).FailsOn
      (id.chars ++ rest) := by
    refine failsOn_keyword_id (by decide) id h (h.wordEnd.bars (by decide) fun e he xs => ?_)
    exact (rejects_word (by decide) (blanks ++ phrase ["EXISTS"]) e he xs).append blanks
  exact FailsOn.optional fun s hs _ goOn => hf s hs goOn

end Parts

section Table

theorem exists_options_of_tableClosing {s t : Spot} (h : tableClosing.Meets s t) :
    ∃ options, s.Spans (')' :: (options ++ [';'])) t ∧ ∀ c ∈ options, c ≠ ';' ∧ c ≠ ')' := by
  obtain ⟨u, ⟨c, xs, hc, hp, rfl⟩, v, hg, w, ⟨x, hm, rfl⟩, ⟨d, zs, hd, hsemi, rfl⟩⟩ := h
  obtain ⟨blank, hblank, hb, _⟩ := Spot.mem_run_iff.1 hg
  obtain ⟨options, hoptions, ho, _⟩ := Spot.mem_run_iff.1 hm
  obtain rfl : c = ')' := by simpa using hp
  obtain rfl : d = ';' := by simpa using hsemi
  have hspan := (((Spot.spans_after hc).trans hblank).trans (hoptions.capture "options")).trans
    (Spot.spans_after hd)
  refine ⟨blank ++ options, by simpa using hspan, fun c hin => ?_⟩
  rcases List.mem_append.1 hin with hin | hin
  · have hblank := hb c hin
    constructor <;> rintro rfl <;> exact absurd hblank (by decide)
  · have hoption := ho c hin
    constructor <;> rintro rfl <;> exact absurd hoption (by decide)

theorem eq_of_append_semicolon {xs ys as bs : List Char} (h : xs ++ ';' :: as = ys ++ ';' :: bs)
    (hx : ';' ∉ xs) (hy : ';' ∉ ys) : xs = ys := by
  have htake {text : List Char} (hn : ';' ∉ text) (rest : List Char) :
      (text ++ ';' :: rest).takeWhile (· ≠ ';') = text := by
    refine (Text.takeWhile_append_of_stops (fun c hc => ?_) (stops_cons.2 (by decide))).1
    simpa using fun he : c = ';' => hn (he ▸ hc)
  rw [← htake hx as, h, htake hy]

theorem failsOn_tableClosing {ys : List Char} (hne : ys ≠ []) (h : ';' ∉ ys) (rest : List Char) :
    tableClosing.FailsOn (ys ++ ([')', ';'] ++ rest)) := by
  intro s hs
  refine fails_of_forall_not_meets fun t ht => ?_
  obtain ⟨options, hspan, ho⟩ := exists_options_of_tableClosing ht
  have hys : (ys ++ [')']) ++ ';' :: rest = (')' :: options) ++ ';' :: t.rest := by
    have hrest := hs.symm.trans hspan.rest
    simpa using hrest
  have hfree : ';' ∉ ys ++ [')'] := by simpa using h
  have hoptions : ';' ∉ ')' :: options := by simpa using fun hin => (ho _ hin).1 rfl
  have heq := eq_of_append_semicolon hys hfree hoptions
  -- A parenthesis stands right before the semicolon, and the options hold none.
  obtain ⟨y, ys, rfl⟩ := List.exists_cons_of_ne_nil hne
  obtain ⟨_, hin⟩ := List.cons.inj heq
  exact (ho ')' (hin ▸ by simp)).2 rfl

theorem takes_tableClosing (rest : List Char) :
    tableClosing.Takes [')', ';'] rest [("options", [])] := by
  have hmost : (most fun c => c ≠ ';' && c ≠ '(' && c ≠ ')').Takes [] (';' :: rest) [] :=
    takes_most (by simp) (stops_cons.2 rfl)
  have hoptions := (hmost.group "options").nil_append (takes_char ';' rest)
  have hgap : gap.Takes [] (';' :: rest) [] := takes_gap (stops_cons.2 rfl)
  exact (takes_char ')' _).append (hgap.nil_append hoptions)

theorem semicolon_not_mem {text : List Char} (h : text.all isStemChar) : ';' ∉ text :=
  fun hin => absurd (List.all_eq_true.1 h _ hin) (by decide)

structure NamesTable (id : List Char) : Prop where
  stops : ∀ rest, Stops isBlank (id ++ rest)
  takes : ∀ rest, IdEnd rest → Identifier.qualifiedName.Takes id rest []
  takes_nil : ∀ rest, IdEnd rest → ifNotExists.Takes [] (id ++ rest) []

theorem Id.namesTable (id : Id) : NamesTable id.chars where
  stops := id.stops
  takes _ h := takes_id id h
  takes_nil _ h := takes_nil_ifNotExists id h

theorem takes_tableTail {id body : List Char} (h : NamesTable id) (hb : ';' ∉ body)
    (rest : List Char) :
    tableTail.Takes (id ++ ([' '] ++ (['('] ++ (body ++ [')', ';'])))) rest
      [("options", []), ("body", body), ("table", id)] := by
  -- The body ends at the first parenthesis with a semicolon behind it, and it has no semicolon.
  have hfails (xs ys : List Char) (he : body = xs ++ ys) (hy : ys ≠ []) :
      tableClosing.FailsOn (ys ++ ([')', ';'] ++ rest)) :=
    failsOn_tableClosing hy (fun hin => hb (he ▸ List.mem_append_right _ hin)) rest
  have hbody := takes_fewest_append "body" hfails (takes_tableClosing rest)
  have hparen := (takes_char '(' _).append hbody
  have hspace : gap.Takes [' '] (['('] ++ (body ++ [')', ';']) ++ rest) [] :=
    takes_gap_space (stops_cons.2 rfl)
  have hend : IdEnd ([' '] ++ (['('] ++ (body ++ [')', ';'])) ++ rest) :=
    .space (e := "(") (by decide) (body ++ [')', ';'] ++ rest)
  have hid := ((h.takes _ hend).group "table").append (hspace.append hparen)
  have hassoc := List.append_assoc id ([' '] ++ (['('] ++ (body ++ [')', ';']))) rest
  have hif := h.takes_nil _ hend
  have hgap : gap.Takes [] (id ++ ([' '] ++ (['('] ++ (body ++ [')', ';'])) ++ rest)) [] :=
    takes_gap (h.stops _)
  rw [← hassoc] at hif hgap
  exact hif.nil_append (hgap.nil_append hid)

theorem takes_nil_temporary (taken rest : List Char) :
    (optional (optional (word "GLOBAL" ++ blanks <|> word "LOCAL" ++ blanks) ++
      (word "TEMP" ++ optional (word "ORARY") ++ blanks))).Takes []
        ("TABLE".toList ++ ([' '] ++ taken) ++ rest) [] :=
  FailsOn.optional (.of_forall fun _ _ _ _ _ => rfl)

theorem takes_createTableText {id body : List Char} (h : NamesTable id) (hb : ';' ∉ body)
    (rest : List Char) :
    (word "CREATE" ++ (blanks ++ createTableTail)).Takes
      ("CREATE TABLE ".toList ++ (id ++ ' ' :: enclosed body) ++ [';']) rest
      [("options", []), ("body", body), ("table", id)] := by
  have hblank : blanks.Takes [' ']
      (id ++ ([' '] ++ (['('] ++ (body ++ [')', ';']))) ++ rest) [] := by
    rw [List.append_assoc]
    exact takes_blanks (h.stops _)
  have hword := (takes_word "TABLE" _).append (hblank.append (takes_tableTail h hb rest))
  have htable := (takes_nil_temporary _ rest).nil_append hword
  have hcreate := (takes_word "CREATE" _).append
    ((takes_blanks (stops_cons.2 rfl)).append htable)
  have hopen : "CREATE TABLE ".toList = "CREATE".toList ++ [' '] ++ "TABLE".toList ++ [' '] := by
    decide
  have htext (a b : List Char) : a ++ [' '] ++ b ++ [' '] ++ (id ++ ' ' :: enclosed body) ++ [';'] =
      a ++ ([' '] ++ (b ++ ([' '] ++ (id ++ ([' '] ++ (['('] ++ (body ++ [')', ';']))))))) := by
    simp [enclosed]
  rw [hopen, htext]
  exact hcreate

theorem takes_createTable (id : Id) (clauses : List TableClause) (rest : List Char) :
    (word "CREATE" ++ (blanks ++ createTableTail)).Takes (Definition.table id clauses).chars rest
      [("options", []), ("body", bodyText clauses), ("table", id.chars)] := by
  have h := takes_createTableText id.namesTable (semicolon_not_mem (all_bodyText clauses)) rest
  have htext (a : List Char) : a ++ (id.chars ++ ' ' :: enclosed (bodyText clauses)) ++ [';'] =
      a ++ id.chars ++ [' '] ++ enclosed (bodyText clauses) ++ [';'] := by
    simp only [List.append_assoc, List.singleton_append]
  rw [htext] at h
  exact h

end Table

section Index

theorem takes_indexColumns (owner : Id) (columns : List Word) (rest : List Char) :
    indexColumns.Takes (owner.chars ++ ([' '] ++ (enclosed (namesText columns) ++ [';']))) rest
      [("columns", namesText columns), ("table", owner.chars)] := by
  have hsemi : gap.Takes [] ([';'] ++ rest) [] := takes_gap (stops_cons.2 rfl)
  have hnames := (takes_names "columns" columns _).append (hsemi.nil_append (takes_ending rest))
  have hgap : gap.Takes [] (enclosed (namesText columns) ++ [';'] ++ rest) [] :=
    takes_gap (stops_cons.2 rfl)
  have husing : (optional (word "USING" ++ blanks ++ oneOrMore Text.isWord)).Takes []
      (enclosed (namesText columns) ++ [';'] ++ rest) [] :=
    FailsOn.optional (.of_forall fun _ _ _ _ _ => rfl)
  have hspace : gap.Takes [' '] (enclosed (namesText columns) ++ [';'] ++ rest) [] :=
    takes_gap_space (stops_cons.2 rfl)
  have hend : IdEnd ([' '] ++ (enclosed (namesText columns) ++ [';']) ++ rest) :=
    .space (e := "(") (by decide) (namesText columns ++ [')'] ++ [';'] ++ rest)
  exact (takes_table "table" owner hend).append
    (hspace.append (husing.nil_append (hgap.nil_append hnames)))

theorem failsOn_only_indexColumns (owner : Id) (columns : List Word) (rest : List Char) :
    (word "ONLY" ++ blanks ++ indexColumns).FailsOn
      (owner.chars ++ ([' '] ++ (enclosed (namesText columns) ++ [';'])) ++ rest) := by
  have hend : IdEnd ([' '] ++ (enclosed (namesText columns) ++ [';']) ++ rest) :=
    .space (e := "(") (by decide) (namesText columns ++ [')'] ++ [';'] ++ rest)
  have hbars : indexColumns.Bars ([' '] ++ (enclosed (namesText columns) ++ [';']) ++ rest) :=
    .space (stops_cons.2 rfl) (.of_forall fun _ _ _ _ _ => rfl)
  rw [List.append_assoc]
  exact fun s hs _ goOn => failsOn_keyword_id (by decide) owner hend hbars s hs goOn

def indexedText (owner : Id) (columns : List Word) : List Char :=
  "ON".toList ++ ([' '] ++ (owner.chars ++ ([' '] ++ (enclosed (namesText columns) ++ [';']))))

theorem takes_indexTail {name : Word} (h : spells "CONCURRENTLY" name.chars = false) (owner : Id)
    (columns : List Word) (rest : List Char) :
    indexTail.Takes (name.chars ++ ([' '] ++ indexedText owner columns)) rest
      [("columns", namesText columns), ("table", owner.chars), ("name", name.chars)] := by
  have hcolumns := takes_optional_append (failsOn_only_indexColumns owner columns rest)
    (takes_indexColumns owner columns rest)
  have hon := (takes_word "ON" _).append ((takes_blanks_id owner _ rest).append hcolumns)
  have hend : IdEnd ([' '] ++ (indexedText owner columns ++ rest)) :=
    .space (e := "ON ") (by decide) _
  have hblank : blanks.Takes [' '] (indexedText owner columns ++ rest) [] :=
    takes_blanks (stops_cons.2 rfl)
  have hname := ((takes_table "name" name.id hend).append hblank).optional.append hon
  have hif : ifNotExists.Takes []
      (name.chars ++ ([' '] ++ (indexedText owner columns ++ rest))) [] :=
    takes_nil_ifNotExists name.id hend
  have hconcurrently : (word "CONCURRENTLY" ++ blanks).FailsOn
      (name.chars ++ ([' '] ++ (indexedText owner columns ++ rest))) := by
    have hf : (word "CONCURRENTLY" ++ (blanks ++ empty)).FailsOn
        (name.chars ++ ([' '] ++ (indexedText owner columns ++ rest))) :=
      failsOn_keyword_append (by decide) name.plain (stops_cons.2 rfl) fun hs => by simp [h] at hs
    exact fun s hs _ goOn => hf s hs goOn
  have hgap : gap.Takes [] (name.chars ++ ([' '] ++ (indexedText owner columns ++ rest))) [] :=
    takes_gap (name.stops _)
  have hassoc : name.chars ++ [' '] ++ indexedText owner columns ++ rest =
      name.chars ++ ([' '] ++ (indexedText owner columns ++ rest)) := by
    simp only [List.append_assoc]
  rw [← hassoc] at hif hconcurrently hgap
  have hall := hconcurrently.optional.nil_append (hif.nil_append (hgap.nil_append hname))
  rwa [List.append_assoc] at hall

def uniqueText (unique : Bool) : List Char :=
  if unique then "UNIQUE".toList ++ [' '] else []

theorem index_chars (unique : Bool) (name : Word) (owner : Id) (columns : List Word) :
    (Definition.index unique name owner columns).chars = "CREATE".toList ++ ([' '] ++
      (uniqueText unique ++ ("INDEX".toList ++ ([' '] ++ (name.chars ++ ([' '] ++ ("ON".toList ++
        ([' '] ++ (owner.chars ++ ([' '] ++ (enclosed (namesText columns) ++ [';']))))))))))) := by
  have htext (a b c d : List Char) : a ++ ([' '] ++ (b ++ (c ++ [' ']))) ++ name.chars ++
      ([' '] ++ d ++ [' ']) ++ owner.chars ++ [' '] ++ enclosed (namesText columns) ++ [';'] =
      a ++ ([' '] ++ (b ++ (c ++ ([' '] ++ (name.chars ++ ([' '] ++ (d ++ ([' '] ++
        (owner.chars ++ ([' '] ++ (enclosed (namesText columns) ++ [';'])))))))))))  := by
    simp only [List.append_assoc]
  have hon : " ON ".toList = [' '] ++ "ON".toList ++ [' '] := by decide
  have hopen : (if unique then "CREATE UNIQUE INDEX ".toList else "CREATE INDEX ".toList) =
      "CREATE".toList ++ ([' '] ++ (uniqueText unique ++ ("INDEX".toList ++ [' ']))) := by
    cases unique <;> decide
  rw [← htext, ← hon, ← hopen]
  rfl

theorem takes_unique (unique : Bool) (taken rest : List Char) :
    (optional (group "unique" (word "UNIQUE" ++ blanks))).Takes (uniqueText unique)
      ("INDEX".toList ++ ([' '] ++ taken) ++ rest)
      (if unique then [("unique", uniqueText true)] else []) := by
  cases unique with
  | false =>
    exact FailsOn.optional (.of_forall fun _ _ _ _ _ => rfl)
  | true =>
    have hblank : blanks.Takes [' '] ("INDEX".toList ++ ([' '] ++ taken) ++ rest) [] :=
      takes_blanks (stops_cons.2 rfl)
    exact (((takes_word "UNIQUE" _).append hblank).group "unique").optional

theorem takes_createIndex (unique : Bool) {name : Word}
    (h : spells "CONCURRENTLY" name.chars = false) (owner : Id) (columns : List Word)
    (rest : List Char) :
    (word "CREATE" ++ (blanks ++ createIndexTail)).Takes
      (Definition.index unique name owner columns).chars rest
      ([("columns", namesText columns), ("table", owner.chars), ("name", name.chars)] ++
        if unique then [("unique", uniqueText true)] else []) := by
  have htail := (takes_blanks_id name.id _ rest).append (takes_indexTail h owner columns rest)
  have hindex := (takes_word "INDEX" _).append htail
  have hunique := (takes_unique unique _ rest).append hindex
  have hstops : Stops isBlank (uniqueText unique ++ ("INDEX".toList ++ ([' '] ++ (name.id.chars ++
      ([' '] ++ ("ON".toList ++ ([' '] ++ (owner.chars ++ ([' '] ++
        (enclosed (namesText columns) ++ [';']))))))))) ++ rest) := by
    cases unique <;> exact stops_cons.2 rfl
  have hcreate := (takes_word "CREATE" _).append ((takes_blanks hstops).append hunique)
  simp only [List.append_nil] at hcreate
  rw [index_chars]
  exact hcreate

end Index

section ForeignKey

/-- The text of a foreign key behind its keywords: what stands in the parentheses, and the blanks
before them. -/
structure KeyText where
  before : List Char
  columns : List Char
  target : List Char
  between : List Char
  targetColumns : List Char

namespace KeyText

variable {key : KeyText}

def reference (key : KeyText) : List Char :=
  "REFERENCES".toList ++ ([' '] ++ (key.target ++ (key.between ++ enclosed key.targetColumns)))

def chars (key : KeyText) : List Char :=
  key.before ++ (enclosed key.columns ++ ([' '] ++ key.reference))

/-- The groups of what is taken, the last one first. -/
def texts (key : KeyText) : List (String × List Char) :=
  [("target_columns", key.targetColumns), ("target", key.target), ("columns", key.columns)]

structure IsKey (key : KeyText) : Prop where
  blank_before : ∀ c ∈ key.before, isBlank c
  inner_columns : key.columns.all isInner
  stops : ∀ rest, Stops isBlank (key.target ++ rest)
  takes : ∀ rest, Identifier.qualifiedName.Takes key.target
    (key.between ++ (enclosed key.targetColumns ++ rest)) []
  blank_between : ∀ c ∈ key.between, isBlank c
  inner_targetColumns : key.targetColumns.all isInner

theorem IsKey.takes_reference (h : key.IsKey) (rest : List Char) :
    referencePattern.Takes key.reference rest
      [("target_columns", key.targetColumns), ("target", key.target)] := by
  have hcolumns := takes_parenthesised "target_columns" h.inner_targetColumns rest
  have hgap : gap.Takes key.between (enclosed key.targetColumns ++ rest) [] :=
    takes_most h.blank_between (stops_cons.2 rfl)
  have htarget := (h.takes rest).group "target"
  have hblank : blanks.Takes [' ']
      (key.target ++ (key.between ++ (enclosed key.targetColumns ++ rest))) [] :=
    takes_blanks (h.stops _)
  have hword := (takes_word "REFERENCES" _).append hblank
  have hall := ((hword.append htarget).append hgap).append hcolumns
  have htext (a : List Char) :
      a ++ [' '] ++ key.target ++ key.between ++ enclosed key.targetColumns =
        a ++ ([' '] ++ (key.target ++ (key.between ++ enclosed key.targetColumns))) := by
    simp only [List.append_assoc]
  rw [htext] at hall
  exact hall

theorem IsKey.takes_keyColumns (h : key.IsKey) (rest : List Char) :
    keyColumns.Takes key.chars rest key.texts := by
  have hspace : gap.Takes [' '] (key.reference ++ rest) [] := takes_gap_space (stops_cons.2 rfl)
  have hnames := (takes_parenthesised "columns" h.inner_columns _).append
    (hspace.append (h.takes_reference rest))
  have hgap : gap.Takes key.before
      (enclosed key.columns ++ ([' '] ++ key.reference) ++ rest) [] :=
    takes_most h.blank_before (stops_cons.2 rfl)
  exact hgap.append hnames

theorem IsKey.stops_chars (h : key.IsKey) (rest : List Char) :
    Stops isWord (key.chars ++ rest) := by
  unfold chars
  cases hb : key.before with
  | nil => exact stops_cons.2 rfl
  | cons c before =>
    have hc := h.blank_before c (by rw [hb]; exact List.mem_cons_self)
    exact stops_cons.2 (Text.isWord_eq_false_of_isBlank hc)

theorem IsKey.takes_clause (h : key.IsKey) :
    (phrase ["FOREIGN", "KEY"] ++ wordEdge ++ keyColumns).Takes
      ("FOREIGN".toList ++ [' '] ++ "KEY".toList ++ key.chars) [] key.texts := by
  have hphrase : (phrase ["FOREIGN", "KEY"] ++ wordEdge).Takes
      ("FOREIGN".toList ++ [' '] ++ "KEY".toList) (key.chars ++ []) [] :=
    (takes_phrase "FOREIGN" "KEY" (stops_cons.2 rfl)).append_wordEdge (by decide)
      (h.stops_chars [])
  exact hphrase.append (h.takes_keyColumns [])

end KeyText

def keyText (pairs : List (Word × Word)) (target : Id) : KeyText where
  before := [' ']
  columns := namesText (pairs.map Prod.fst)
  target := target.chars
  between := []
  targetColumns := namesText (pairs.map Prod.snd)

theorem isKey_keyText (pairs : List (Word × Word)) (target : Id) :
    (keyText pairs target).IsKey where
  blank_before := by simpa [keyText] using Text.isBlank_space
  inner_columns := isInner_of_isListChar (all_namesText _)
  stops := target.stops
  takes rest := takes_id target (.parenthesis (namesText (pairs.map Prod.snd) ++ [')'] ++ rest))
  blank_between := by simp [keyText]
  inner_targetColumns := isInner_of_isListChar (all_namesText _)

theorem foreignKeyText_eq (pairs : List (Word × Word)) (target : Id) :
    foreignKeyText pairs target =
      "FOREIGN".toList ++ [' '] ++ "KEY".toList ++ (keyText pairs target).chars := by
  have htext (a b c d : List Char) : a ++ [' '] ++ b ++ ([' '] ++ (c ++ ([' '] ++ (d ++ ([' '] ++
      (target.chars ++ enclosed (namesText (pairs.map Prod.snd)))))))) =
      (a ++ [' '] ++ b ++ [' ']) ++ c ++ ([' '] ++ d ++ [' ']) ++ target.chars ++
        enclosed (namesText (pairs.map Prod.snd)) := by
    simp only [List.append_assoc]
  have hkey : "FOREIGN KEY ".toList = "FOREIGN".toList ++ [' '] ++ "KEY".toList ++ [' '] := by
    decide
  have hreferences : " REFERENCES ".toList = [' '] ++ "REFERENCES".toList ++ [' '] := by decide
  unfold keyText KeyText.chars KeyText.reference foreignKeyText
  dsimp only
  rw [List.nil_append, htext, hkey, hreferences]

def addedText (pairs : List (Word × Word)) (target : Id) : List Char :=
  "FOREIGN".toList ++ [' '] ++ "KEY".toList ++ ((keyText pairs target).chars ++ [';'])

theorem takes_addedText (pairs : List (Word × Word)) (target : Id) (rest : List Char) :
    (phrase ["FOREIGN", "KEY"] ++ (keyColumns ++ (gap ++ ending))).Takes (addedText pairs target)
      rest (keyText pairs target).texts := by
  have hsemi : gap.Takes [] ([';'] ++ rest) [] := takes_gap (stops_cons.2 rfl)
  have hcolumns := ((isKey_keyText pairs target).takes_keyColumns _).append
    (hsemi.nil_append (takes_ending rest))
  exact (takes_phrase "FOREIGN" "KEY" (stops_cons.2 rfl)).append hcolumns

theorem takes_addedKey (owner : Id) (pairs : List (Word × Word)) (target : Id)
    (rest : List Char) :
    addedKey.Takes
      (owner.chars ++ ([' '] ++ ("ADD".toList ++ ([' '] ++ addedText pairs target)))) rest
      [("target_columns", namesText (pairs.map Prod.snd)), ("target", target.chars),
        ("columns", namesText (pairs.map Prod.fst)), ("table", owner.chars)] := by
  have hconstraint : (optional (word "CONSTRAINT" ++ blanks ++ Identifier.constraintName ++
      blanks)).Takes [] (addedText pairs target ++ rest) [] :=
    FailsOn.optional (.of_forall fun _ _ _ _ _ => rfl)
  have hgap : gap.Takes [] (addedText pairs target ++ rest) [] := takes_gap (stops_cons.2 rfl)
  have hblank : blanks.Takes [' '] (addedText pairs target ++ rest) [] :=
    takes_blanks (stops_cons.2 rfl)
  have hadd := (takes_word "ADD" _).append
    (hblank.append (hgap.nil_append (hconstraint.nil_append (takes_addedText pairs target rest))))
  have hspace : blanks.Takes [' ']
      ("ADD".toList ++ ([' '] ++ addedText pairs target) ++ rest) [] :=
    takes_blanks (stops_cons.2 rfl)
  have hend : IdEnd ([' '] ++ ("ADD".toList ++ ([' '] ++ addedText pairs target)) ++ rest) :=
    .space (e := "ADD ") (by decide) _
  exact (takes_table "table" owner hend).append (hspace.append hadd)

theorem failsOn_only_addedKey (owner : Id) (pairs : List (Word × Word)) (target : Id)
    (rest : List Char) :
    (word "ONLY" ++ blanks ++ addedKey).FailsOn
      (owner.chars ++ ([' '] ++ ("ADD".toList ++ ([' '] ++ addedText pairs target))) ++ rest) := by
  have hend : IdEnd ([' '] ++ ("ADD".toList ++ ([' '] ++ addedText pairs target)) ++ rest) :=
    .space (e := "ADD ") (by decide) _
  have hbars : addedKey.Bars
      ([' '] ++ ("ADD".toList ++ ([' '] ++ addedText pairs target)) ++ rest) :=
    .space (stops_cons.2 rfl) (.of_forall fun _ _ _ _ _ => rfl)
  rw [List.append_assoc]
  exact fun s hs _ goOn => failsOn_keyword_id (by decide) owner hend hbars s hs goOn

theorem foreignKey_chars (owner : Id) (pairs : List (Word × Word)) (target : Id) :
    (Definition.foreignKey owner pairs target).chars = "ALTER".toList ++ ([' '] ++
      ("TABLE".toList ++ ([' '] ++ (owner.chars ++ ([' '] ++ ("ADD".toList ++ ([' '] ++
        addedText pairs target))))))) := by
  have htext (a b c d : List Char) : a ++ ([' '] ++ (b ++ ([' '] ++ (owner.chars ++ ([' '] ++ (c ++
      ([' '] ++ (d ++ ((keyText pairs target).chars ++ [';']))))))))) =
      (a ++ [' '] ++ b ++ [' ']) ++ owner.chars ++ ([' '] ++ c ++ [' ']) ++
        (d ++ (keyText pairs target).chars) ++ [';'] := by
    simp only [List.append_assoc]
  have hopen : "ALTER TABLE ".toList = "ALTER".toList ++ [' '] ++ "TABLE".toList ++ [' '] := by
    decide
  have hmiddle : " ADD ".toList = [' '] ++ "ADD".toList ++ [' '] := by decide
  unfold addedText
  rw [htext, ← hopen, ← hmiddle, ← foreignKeyText_eq]
  rfl

theorem takes_addForeignKey (owner : Id) (pairs : List (Word × Word)) (target : Id)
    (rest : List Char) :
    (word "ALTER" ++ (blanks ++ addForeignKeyTail)).Takes
      (Definition.foreignKey owner pairs target).chars rest
      [("target_columns", namesText (pairs.map Prod.snd)), ("target", target.chars),
        ("columns", namesText (pairs.map Prod.fst)), ("table", owner.chars)] := by
  have hadded := takes_optional_append (failsOn_only_addedKey owner pairs target rest)
    (takes_addedKey owner pairs target rest)
  have htable := (takes_word "TABLE" _).append ((takes_blanks_id owner _ rest).append hadded)
  rw [foreignKey_chars]
  exact (takes_word "ALTER" _).append ((takes_blanks (stops_cons.2 rfl)).append htable)

end ForeignKey

section Enumeration

theorem valuesText_eq (values : List Word) :
    valuesText values = Literal.listed (values.map Word.chars) := by
  have hquoted (value : Word) :
      '\'' :: (value.chars ++ ['\'']) = Literal.quoted value.chars := by
    unfold Literal.quoted
    rw [Text.double_of_not_mem fun hq => absurd (value.plain _ hq) (by decide)]
  unfold valuesText Literal.listed
  rw [List.map_map, List.map_congr_left fun value _ => hquoted value]
  rfl

theorem takes_createEnum_listed {name : List Char} (hstops : ∀ rest, Stops isBlank (name ++ rest))
    (hname : ∀ rest, Identifier.qualifiedName.Takes name (' ' :: ("AS ENUM".toList ++ rest)) [])
    (values : List (List Char)) (rest : List Char) :
    (word "CREATE" ++ (blanks ++ createEnumTail)).Takes
      ("CREATE TYPE ".toList ++ name ++ " AS ENUM ".toList ++ enclosed (Literal.listed values) ++
        [';']) rest [("values", Literal.listed values), ("name", name)] := by
  have hsemi : gap.Takes [] ([';'] ++ rest) [] := takes_gap (stops_cons.2 rfl)
  have hclose := (takes_char ')' _).append (hsemi.nil_append (takes_char ';' rest))
  have hvalues : (group "values" enumValues).Takes (Literal.listed values)
      ([')'] ++ [';'] ++ rest) [("values", Literal.listed values)] :=
    (Literal.takes_enumValues values _).group "values"
  have hparen := (takes_char '(' _).append (hvalues.append hclose)
  generalize hx : ['('] ++ (Literal.listed values ++ ([')'] ++ [';'])) = xs at hparen
  have hspace : gap.Takes [' '] (xs ++ rest) [] := by
    rw [← hx]
    exact takes_gap_space (stops_cons.2 rfl)
  have henum := (takes_phrase "AS" "ENUM" (stops_cons.2 rfl)).append (hspace.append hparen)
  have hblank : blanks.Takes [' ']
      ("AS".toList ++ [' '] ++ "ENUM".toList ++ ([' '] ++ xs) ++ rest) [] :=
    takes_blanks (stops_cons.2 rfl)
  have hgroup : (group "name" Identifier.qualifiedName).Takes name
      ([' '] ++ ("AS".toList ++ [' '] ++ "ENUM".toList ++ ([' '] ++ xs)) ++ rest)
      [("name", name)] :=
    (hname ([' '] ++ xs ++ rest)).group "name"
  have hblanks : blanks.Takes [' '] (name ++
      ([' '] ++ ("AS".toList ++ [' '] ++ "ENUM".toList ++ ([' '] ++ xs))) ++ rest) [] := by
    rw [List.append_assoc]
    exact takes_blanks (hstops _)
  have htype := (takes_word "TYPE" _).append (hblanks.append (hgroup.append (hblank.append henum)))
  have hall := (takes_word "CREATE" _).append ((takes_blanks (stops_cons.2 rfl)).append htype)
  have htext (a b c d : List Char) : a ++ ([' '] ++ (b ++ ([' '] ++ (name ++ ([' '] ++
      (c ++ [' '] ++ d ++ ([' '] ++ xs))))))) =
      (a ++ [' '] ++ b ++ [' ']) ++ name ++ ([' '] ++ c ++ [' '] ++ d ++ [' ']) ++ xs := by
    simp only [List.append_assoc]
  have hopen : "CREATE TYPE ".toList = "CREATE".toList ++ [' '] ++ "TYPE".toList ++ [' '] := by
    decide
  have hmiddle : " AS ENUM ".toList = [' '] ++ "AS".toList ++ [' '] ++ "ENUM".toList ++ [' '] := by
    decide
  have hclosed : xs = enclosed (Literal.listed values) ++ [';'] := by
    rw [← hx]
    simp [enclosed]
  rw [htext, ← hopen, ← hmiddle, hclosed, ← List.append_assoc] at hall
  exact hall

theorem takes_createEnum (id : Id) (values : List Word) (rest : List Char) :
    (word "CREATE" ++ (blanks ++ createEnumTail)).Takes
      (Definition.enumeration id values).chars rest
      [("values", valuesText values), ("name", id.chars)] := by
  have hall := takes_createEnum_listed id.stops
    (fun rest => takes_id id (.space (e := "AS ENUM") (by decide) rest)) (values.map Word.chars)
    rest
  rwa [← valuesText_eq] at hall

end Enumeration

end SchemaText.Sql.Core
