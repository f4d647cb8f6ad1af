import SchemaText.Proofs.Sql.Grammar
import SchemaText.Proofs.Sql.Opening
import SchemaText.Proofs.Text.Split
/-! The texts of the core grammar behind the opening of a definition, in which no statement starts.
-/

namespace SchemaText.Sql.Core

open Pattern Statement
open Diagram (isPlain)
open Text (Stops stops_cons isBlank isWord)

theorem wordEnd_comma_or {ends : List String} {c : Char} (h : c ∈ [',', ')']) (rest : List Char) :
    WordEnd ends (c :: rest) := by
  simp only [List.mem_cons, List.not_mem_nil, or_false] at h
  rcases h with rfl | rfl
  · exact .mark (by decide) rest
  · exact .mark (by decide) rest

theorem wordEnd_flags (flags : List Flag) {c : Char} (h : c ∈ [',', ')']) (rest : List Char) :
    WordEnd typeEnds (flags.flatMap Flag.chars ++ c :: rest) := by
  cases flags with
  | nil => exact wordEnd_comma_or h rest
  | cons flag flags =>
    rw [List.flatMap_cons, List.append_assoc]
    generalize hr : flags.flatMap Flag.chars ++ c :: rest = after
    cases flag with
    | notNull => exact .space (e := "NOT NULL") (by decide) after
    | primaryKey => exact .space (e := "PRIMARY KEY") (by decide) after
    | unique =>
      -- A statement might go on behind this one word, so the next text counts, too.
      subst hr
      cases flags with
      | nil =>
        simp only [List.mem_cons, List.not_mem_nil, or_false] at h
        rcases h with rfl | rfl
        · exact .space (e := "UNIQUE,") (by decide) rest
        · exact .space (e := "UNIQUE)") (by decide) rest
      | cons next flags =>
        rw [List.flatMap_cons, List.append_assoc]
        cases next with
        | notNull => exact .space (e := "UNIQUE NOT NULL") (by decide) _
        | unique => exact .space (e := "UNIQUE UNIQUE") (by decide) _
        | primaryKey => exact .space (e := "UNIQUE PRIMARY KEY") (by decide) _

section Silence

variable {letters : String} {q : Pattern} {rest : List Char}

theorem silent_fixed (h : Opens letters q) (text : String) (ht : text ∈ fixedTexts)
    (rest : List Char) : (keyed letters q).Silent text.toList rest :=
  silent_of_avoids (List.all_eq_true.1 h.avoids_fixedTexts text ht)

theorem silent_name (h : Opens letters q) (w : Word) (k : WordEnd spacedEnds rest) :
    (keyed letters q).Silent w.chars rest :=
  silent_word h.plain w.plain k.stops fun _ => k.bars (by decide) h.rejects

theorem silent_id (h : Opens letters q) (id : Id) (k : WordEnd spacedEnds rest) :
    (keyed letters q).Silent id.chars rest := by
  unfold Id.chars
  split
  · exact silent_name h id.name k
  · next schema _ =>
    have hs := silent_name h schema (.mark (c := '.') (by decide) (id.name.chars ++ rest))
    have hd := silent_fixed h "." (by decide) (id.name.chars ++ rest)
    exact hs.append (hd.append (silent_name h id.name k))

theorem silent_intercalate (h : Opens letters q) (sep : String) (hs : sep = ", " ∨ sep = ",")
    (ends : List Char → Prop) (hc : ∀ xs, ends (',' :: xs)) {parts : List (List Char)}
    (hp : ∀ part ∈ parts, ∀ rest, ends rest → (keyed letters q).Silent part rest)
    {rest : List Char} (hr : ends rest) :
    (keyed letters q).Silent (sep.toList.intercalate parts) rest := by
  obtain ⟨after, ha⟩ : ∃ after, sep.toList = ',' :: after := by
    rcases hs with rfl | rfl <;> exact ⟨_, rfl⟩
  have hsep : sep ∈ fixedTexts := by
    rcases hs with rfl | rfl <;> decide
  -- What follows an entry is the comma of the next one or the end, which the induction carries.
  have hmore (parts : List (List Char))
      (hp : ∀ part ∈ parts, ∀ rest, ends rest → (keyed letters q).Silent part rest) :
      (keyed letters q).Silent (parts.flatMap (sep.toList ++ ·)) rest ∧
        ends (parts.flatMap (sep.toList ++ ·) ++ rest) := by
    induction parts with
    | nil => exact ⟨silent_nil _ _, hr⟩
    | cons part parts ih =>
      obtain ⟨hi, hends⟩ := ih fun other ho => hp other (List.mem_cons_of_mem _ ho)
      have hpart := hp part List.mem_cons_self _ hends
      rw [List.flatMap_cons]
      refine ⟨((silent_fixed h sep hsep _).append hpart).append hi, ?_⟩
      rw [ha]
      exact hc _
  cases parts with
  | nil => exact silent_nil _ _
  | cons part parts =>
    rw [Text.intercalate_cons]
    obtain ⟨hi, hends⟩ := hmore parts fun other ho => hp other (List.mem_cons_of_mem _ ho)
    exact (hp part List.mem_cons_self _ hends).append hi

theorem silent_listed (h : Opens letters q) (sep : String) (hs : sep = ", " ∨ sep = ",")
    {parts : List (List Char)}
    (hp : ∀ part ∈ parts, ∀ c ∈ [',', ')'], ∀ rest, (keyed letters q).Silent part (c :: rest))
    (rest : List Char) :
    (keyed letters q).Silent (sep.toList.intercalate parts) (')' :: rest) := by
  refine silent_intercalate h sep hs (fun xs => ∃ c ∈ [',', ')'], ∃ ys, xs = c :: ys)
    (fun xs => ⟨',', by decide, xs, rfl⟩) (fun part hpart xs hx => ?_) ⟨')', by decide, rest, rfl⟩
  obtain ⟨c, hc, ys, rfl⟩ := hx
  exact hp part hpart c hc ys

theorem silent_words (h : Opens letters q) {sep : String} (hs : sep = ", " ∨ sep = ",")
    (words : List Word) (rest : List Char) :
    (keyed letters q).Silent (sep.toList.intercalate (words.map Word.chars)) (')' :: rest) := by
  refine silent_listed h sep hs ?_ rest
  intro part hp c hc rest
  obtain ⟨w, _, rfl⟩ := List.mem_map.1 hp
  exact silent_name h w (wordEnd_comma_or hc rest)

theorem silent_names (h : Opens letters q) (names : List Word) (rest : List Char) :
    (keyed letters q).Silent (namesText names) (')' :: rest) :=
  silent_words h (.inl rfl) names rest

theorem silent_values (h : Opens letters q) (values : List Word) (rest : List Char) :
    (keyed letters q).Silent (valuesText values) (')' :: rest) := by
  refine silent_listed h ", " (.inl rfl) ?_ rest
  intro part hp c hc rest
  obtain ⟨w, _, rfl⟩ := List.mem_map.1 hp
  have hopen := silent_fixed h "'" (by decide) (w.chars ++ "'".toList ++ c :: rest)
  have hname := silent_name h w (.mark (c := '\'') (by decide) (c :: rest))
  have hclose := silent_fixed h "'" (by decide) (c :: rest)
  exact hopen.append (hname.append hclose)

theorem silent_enclosed (h : Opens letters q) {text : List Char}
    (k : (keyed letters q).Silent text (')' :: rest)) :
    (keyed letters q).Silent (enclosed text) rest := by
  have hopen := silent_fixed h "(" (by decide) (text ++ ")".toList ++ rest)
  have hclose := silent_fixed h ")" (by decide) rest
  exact hopen.append (k.append hclose)

theorem silent_type (h : Opens letters q) (type : TypeName) (k : WordEnd typeEnds rest) :
    (keyed letters q).Silent type.chars rest := by
  unfold TypeName.chars
  split
  · rw [List.append_nil]
    exact silent_name h type.word k.spaced
  · have hword := silent_name h type.word (.mark (c := '(') (by decide)
      ([','].intercalate (type.arguments.map Word.chars) ++ [')'] ++ rest))
    exact hword.append (silent_enclosed h (silent_words h (.inr rfl) type.arguments rest))

theorem silent_flags (h : Opens letters q) (flags : List Flag) (rest : List Char) :
    (keyed letters q).Silent (flags.flatMap Flag.chars) rest := by
  induction flags with
  | nil => exact silent_nil _ _
  | cons flag flags ih =>
    rw [List.flatMap_cons]
    refine Silent.append ?_ ih
    cases flag with
    | notNull => exact silent_fixed h " NOT NULL" (by decide) _
    | unique => exact silent_fixed h " UNIQUE" (by decide) _
    | primaryKey => exact silent_fixed h " PRIMARY KEY" (by decide) _

theorem wordEnd_arguments (type : TypeName) (flags : List Flag) {c : Char} (h : c ∈ [',', ')'])
    (rest : List Char) :
    ∃ after, type.chars ++ flags.flatMap Flag.chars ++ c :: rest = type.word.chars ++ after ∧
      WordEnd typeEnds after := by
  unfold TypeName.chars
  rw [List.append_assoc, List.append_assoc]
  refine ⟨_, rfl, ?_⟩
  split
  · exact wordEnd_flags flags h rest
  · exact .mark (by decide) _

theorem silent_column (h : Opens letters q) (column : ColumnDefinition) {c : Char}
    (hc : c ∈ [',', ')']) (rest : List Char) :
    (keyed letters q).Silent column.chars (c :: rest) := by
  obtain ⟨after, ha, hend⟩ := wordEnd_arguments column.type column.flags hc rest
  have hstops : Stops isBlank (column.type.word.chars ++ after) := by
    obtain ⟨d, ds, hd⟩ := List.exists_cons_of_ne_nil column.type.word.ne_nil
    have hp : isPlain d := column.type.word.plain d (by simp [hd])
    rw [hd]
    exact stops_cons.2 (Diagram.isBlank_eq_false_of_isPlain hp)
  -- Only the name of a column stands where a keyword could, with a type behind its blank.
  have hname : (keyed letters q).Silent column.name.chars
      (' ' :: (column.type.chars ++ column.flags.flatMap Flag.chars) ++ c :: rest) := by
    refine silent_word h.plain column.name.plain (stops_cons.2 rfl) fun _ => ?_
    rw [List.cons_append, ha]
    exact .space hstops (h.fails_type column.type.word.plain hend)
  have hspace := silent_fixed h " " (by decide)
    (column.type.chars ++ column.flags.flatMap Flag.chars ++ c :: rest)
  have htype := silent_type h column.type (wordEnd_flags column.flags hc rest)
  exact hname.append (hspace.append (htype.append (silent_flags h column.flags _)))

theorem silent_foreignKey (h : Opens letters q) (pairs : List (Word × Word)) (target : Id)
    (rest : List Char) : (keyed letters q).Silent (foreignKeyText pairs target) rest := by
  unfold foreignKeyText
  have hkeys := silent_fixed h "FOREIGN KEY " (by decide)
  have hreferences := silent_fixed h " REFERENCES " (by decide)
  have hcolumns (rest : List Char) := silent_enclosed h (silent_names h (pairs.map Prod.fst) rest)
  have htarget := silent_id h target
    (.mark (c := '(') (by decide) (namesText (pairs.map Prod.snd) ++ [')'] ++ rest))
  have htargets := silent_enclosed h (silent_names h (pairs.map Prod.snd) rest)
  exact ((((hkeys _).append (hcolumns _)).append (hreferences _)).append htarget).append htargets

theorem silent_clause (h : Opens letters q) (clause : TableClause) {c : Char} (hc : c ∈ [',', ')'])
    (rest : List Char) : (keyed letters q).Silent clause.chars (c :: rest) := by
  cases clause with
  | column definition => exact silent_column h definition hc rest
  | primaryKey columns =>
    have hkeys := silent_fixed h "PRIMARY KEY " (by decide)
    exact (hkeys _).append (silent_enclosed h (silent_names h columns _))
  | foreignKey pairs target => exact silent_foreignKey h pairs target _
  | unique columns =>
    have hunique := silent_fixed h "UNIQUE " (by decide)
    exact (hunique _).append (silent_enclosed h (silent_names h columns _))

theorem silent_body (h : Opens letters q) (clauses : List TableClause) (rest : List Char) :
    (keyed letters q).Silent (bodyText clauses) (')' :: rest) := by
  refine silent_listed h ", " (.inl rfl) ?_ rest
  intro part hp c hc rest
  obtain ⟨clause, _, rfl⟩ := List.mem_map.1 hp
  exact silent_clause h clause hc rest

theorem silent_table (h : Opens letters q)
    (ho : ∀ rest, (keyed letters q).Silent "CREATE TABLE ".toList rest) (id : Id)
    (clauses : List TableClause) (rest : List Char) :
    (keyed letters q).Silent (Definition.table id clauses).chars rest := by
  unfold Definition.chars
  have hid := silent_id h id
    (.space (e := "(") (by decide) (bodyText clauses ++ [')'] ++ ([';'] ++ rest)))
  have hspace := silent_fixed h " " (by decide)
  have hbody := silent_enclosed h (silent_body h clauses ([';'] ++ rest))
  have hend := silent_fixed h ";" (by decide) rest
  exact ((((ho _).append hid).append (hspace _)).append hbody).append hend

theorem silent_index (h : Opens letters q)
    (ho : ∀ rest, (keyed letters q).Silent "CREATE INDEX ".toList rest)
    (hu : ∀ rest, (keyed letters q).Silent "CREATE UNIQUE INDEX ".toList rest) (unique : Bool)
    (name : Word) (owner : Id) (columns : List Word) (rest : List Char) :
    (keyed letters q).Silent (Definition.index unique name owner columns).chars rest := by
  have hopen (rest : List Char) : (keyed letters q).Silent
      (if unique then "CREATE UNIQUE INDEX ".toList else "CREATE INDEX ".toList) rest := by
    split
    · exact hu rest
    · exact ho rest
  have hname := silent_name h name
    (.space (e := "ON ") (by decide)
      (owner.chars ++ ([' '] ++ (enclosed (namesText columns) ++ ([';'] ++ rest)))))
  have hon := silent_fixed h " ON " (by decide)
  have howner := silent_id h owner
    (.space (e := "(") (by decide) (namesText columns ++ [')'] ++ ([';'] ++ rest)))
  have hspace := silent_fixed h " " (by decide)
  have hcolumns := silent_enclosed h (silent_names h columns ([';'] ++ rest))
  have hend := silent_fixed h ";" (by decide) rest
  exact ((((((hopen _).append hname).append (hon _)).append howner).append (hspace _)).append
    hcolumns).append hend

theorem silent_addForeignKey (h : Opens letters q)
    (ho : ∀ rest, (keyed letters q).Silent "ALTER TABLE ".toList rest) (owner : Id)
    (pairs : List (Word × Word)) (target : Id) (rest : List Char) :
    (keyed letters q).Silent (Definition.foreignKey owner pairs target).chars rest := by
  have howner := silent_id h owner
    (.space (e := "ADD ") (by decide) (foreignKeyText pairs target ++ ([';'] ++ rest)))
  have hadd := silent_fixed h " ADD " (by decide)
  have hkey := silent_foreignKey h pairs target ([';'] ++ rest)
  have hend := silent_fixed h ";" (by decide) rest
  exact ((((ho _).append howner).append (hadd _)).append hkey).append hend

theorem silent_enumeration (h : Opens letters q)
    (ho : ∀ rest, (keyed letters q).Silent "CREATE TYPE ".toList rest) (id : Id)
    (values : List Word) (rest : List Char) :
    (keyed letters q).Silent (Definition.enumeration id values).chars rest := by
  have hid := silent_id h id
    (.space (e := "AS ENUM") (by decide) (' ' :: (enclosed (valuesText values) ++ ([';'] ++ rest))))
  have henum := silent_fixed h " AS ENUM " (by decide)
  have hvalues := silent_enclosed h (silent_values h values ([';'] ++ rest))
  have hend := silent_fixed h ";" (by decide) rest
  exact ((((ho _).append hid).append (henum _)).append hvalues).append hend

end Silence

section Openings

variable {q : Pattern} {rest : List Char}

theorem silent_create (text : List Char) (hb : Stops isBlank (text ++ rest))
    (hq : q.FailsOn (text ++ rest)) (ha : avoids "CREATE".toList ("REATE ".toList ++ text)) :
    (keyed "CREATE" q).Silent ("CREATE ".toList ++ text) rest := by
  have hkey : (word "CREATE" ++ (blanks ++ q)).FailsOn ("CREATE".toList ++ ' ' :: (text ++ rest)) :=
    failsOn_keyword_append (by decide) (List.all_eq_true.1 (by decide)) (stops_cons.2 rfl)
      fun _ => .space hb hq
  have hfirst : (keyed "CREATE" q).FailsOn ('C' :: ("REATE ".toList ++ text ++ rest)) :=
    hkey.keyed
  exact (silent_singleton hfirst).append (silent_of_avoids ha)

theorem silent_alterTable (rest : List Char) :
    (keyed "CREATE" q).Silent "ALTER TABLE ".toList rest :=
  silent_of_avoids (by decide)

theorem failsOn_createTableTail {text : String}
    (h : text = "INDEX " ∨ text = "UNIQUE INDEX " ∨ text = "TYPE ") (rest : List Char) :
    createTableTail.FailsOn (text.toList ++ rest) := by
  refine FailsOn.of_forall fun offset before captures β goOn => ?_
  rcases h with rfl | rfl | rfl <;> rfl

theorem failsOn_createIndexTail {text : String} (h : text = "TABLE " ∨ text = "TYPE ")
    (rest : List Char) : createIndexTail.FailsOn (text.toList ++ rest) := by
  refine FailsOn.of_forall fun offset before captures β goOn => ?_
  rcases h with rfl | rfl <;> rfl

theorem silent_createTable {definition : Definition} (h : definition.table? = none)
    (rest : List Char) : createTable.Silent definition.chars rest := by
  refine agrees_createTable.silent ?_
  cases definition with
  | table id clauses => cases h
  | index unique name owner columns =>
    refine silent_index opens_createTable ?_ ?_ unique name owner columns rest
    · intro rest
      exact silent_create "INDEX ".toList (stops_cons.2 rfl)
        (failsOn_createTableTail (.inl rfl) rest) (by decide)
    · intro rest
      exact silent_create "UNIQUE INDEX ".toList (stops_cons.2 rfl)
        (failsOn_createTableTail (.inr (.inl rfl)) rest) (by decide)
  | foreignKey owner pairs target =>
    exact silent_addForeignKey opens_createTable silent_alterTable owner pairs target rest
  | enumeration id values =>
    refine silent_enumeration opens_createTable ?_ id values rest
    intro rest
    exact silent_create "TYPE ".toList (stops_cons.2 rfl)
      (failsOn_createTableTail (.inr (.inr rfl)) rest) (by decide)

theorem silent_createIndex {definition : Definition}
    (h : ∀ unique name owner columns, definition ≠ .index unique name owner columns)
    (rest : List Char) : createIndex.Silent definition.chars rest := by
  refine agrees_createIndex.silent ?_
  cases definition with
  | table id clauses =>
    refine silent_table opens_createIndex ?_ id clauses rest
    intro rest
    exact silent_create "TABLE ".toList (stops_cons.2 rfl)
      (failsOn_createIndexTail (.inl rfl) rest) (by decide)
  | index unique name owner columns => exact absurd rfl (h unique name owner columns)
  | foreignKey owner pairs target =>
    exact silent_addForeignKey opens_createIndex silent_alterTable owner pairs target rest
  | enumeration id values =>
    refine silent_enumeration opens_createIndex ?_ id values rest
    intro rest
    exact silent_create "TYPE ".toList (stops_cons.2 rfl)
      (failsOn_createIndexTail (.inr rfl) rest) (by decide)

theorem silent_createEnum {definition : Definition} (h : definition.enumeration? = none)
    (rest : List Char) : createEnum.Silent definition.chars rest := by
  refine agrees_createEnum.silent ?_
  cases definition with
  | table id clauses =>
    refine silent_table opens_createEnum ?_ id clauses rest
    intro rest
    exact silent_create "TABLE ".toList (stops_cons.2 rfl)
      (failsOn_word_of_departs (by decide)) (by decide)
  | index unique name owner columns =>
    refine silent_index opens_createEnum ?_ ?_ unique name owner columns rest
    · intro rest
      exact silent_create "INDEX ".toList (stops_cons.2 rfl)
        (failsOn_word_of_departs (by decide)) (by decide)
    · intro rest
      exact silent_create "UNIQUE INDEX ".toList (stops_cons.2 rfl)
        (failsOn_word_of_departs (by decide)) (by decide)
  | foreignKey owner pairs target =>
    exact silent_addForeignKey opens_createEnum silent_alterTable owner pairs target rest
  | enumeration id values => cases h

theorem silent_addForeignKey_of_ne {definition : Definition}
    (h : ∀ owner pairs target, definition ≠ .foreignKey owner pairs target)
    (rest : List Char) : addForeignKey.Silent definition.chars rest := by
  refine agrees_addForeignKey.silent ?_
  cases definition with
  | table id clauses =>
    exact silent_table opens_addForeignKey (fun _ => silent_of_avoids (by decide)) id clauses rest
  | index unique name owner columns =>
    exact silent_index opens_addForeignKey (fun _ => silent_of_avoids (by decide))
      (fun _ => silent_of_avoids (by decide)) unique name owner columns rest
  | foreignKey owner pairs target => exact absurd rfl (h owner pairs target)
  | enumeration id values =>
    exact silent_enumeration opens_addForeignKey (fun _ => silent_of_avoids (by decide)) id values
      rest

end Openings

end SchemaText.Sql.Core
