import SchemaText.Proofs.Sql.ClauseText
import SchemaText.Proofs.Sql.Quiet
import SchemaText.Proofs.Sql.WrittenName
/-! The texts of written tables: no other statement starts in them, and they are cut into clauses
where they were put together. -/

namespace SchemaText.Sql.Written

open Pattern Statement
open Sql.Core (Word enclosed all_append all_intercalate Keeps)
open Diagram (isPlain)
open Text (Stops stops_nil stops_cons isBlank isWord sameLetter Firm)

section Characters

def isTableChar (c : Char) : Bool :=
  isPlain c || [' ', ',', '.', '(', ')', '\n', '\t', '"', '`', '+', '-'].contains c

theorem isTableChar_of_isPlain (c : Char) (h : isPlain c) : isTableChar c := by
  simp [isTableChar, h]

theorem isPlain_of_isDigit {c : Char} (h : c.isDigit) : isPlain c := by
  simp [isPlain, Char.isAlphanum, h]

theorem isTableChar_of_isArgument {c : Char} (h : isArgument c) : isTableChar c := by
  rcases Bool.or_eq_true_iff.1 h with h | h
  · exact isTableChar_of_isPlain c (isPlain_of_isDigit h)
  · simp only [List.contains_eq_mem, List.mem_cons, List.not_mem_nil, or_false,
      decide_eq_true_eq] at h
    rcases h with rfl | rfl | rfl | rfl <;> rfl

theorem Name.all_table (n : Name) : n.chars.all isTableChar :=
  n.all isTableChar_of_isPlain rfl rfl

theorem all_enclosed {text : List Char} (h : text.all isTableChar) :
    (enclosed text).all isTableChar :=
  all_append (a := ['(']) (by decide) (all_append h (by decide))

theorem Id.all_table (id : Id) : id.chars.all isTableChar := by
  rcases id.chars_eq with ⟨_, h⟩ | ⟨schema, _, h⟩
  · rw [h]
    exact id.name.all_table
  · rw [h]
    exact all_append schema.all_table (all_append (a := ['.']) (by decide) id.name.all_table)

theorem all_namesText (names : List Name) : (namesText names).all isTableChar := by
  refine all_intercalate (by decide) fun part hp => ?_
  obtain ⟨n, _, rfl⟩ := List.mem_map.1 hp
  exact n.all_table

theorem TypeText.argumentsText_eq (type : TypeText) :
    type.arguments = none ∧ type.argumentsText = [] ∨
      ∃ text, text.all isArgument ∧ ¬ ['-', '-'] <:+: text ∧
        type.argumentsText = enclosed text := by
  unfold argumentsText
  cases h : type.arguments with
  | none => exact .inl ⟨rfl, rfl⟩
  | some text =>
    obtain ⟨ha, hd⟩ := type.numbers text h
    exact .inr ⟨text, ha, hd, rfl⟩

theorem TypeText.all_moreText {p : Char → Bool} (type : TypeText) (hs : p ' ')
    (h : ∀ word ∈ type.more, word.chars.all p) : type.moreText.all p := by
  refine List.all_eq_true.2 fun c hc => ?_
  obtain ⟨word, hw, hc⟩ := List.mem_flatMap.1 hc
  rcases List.mem_cons.1 hc with rfl | hc
  · exact hs
  · exact List.all_eq_true.1 (h word hw) c hc

theorem TypeText.all_table (type : TypeText) : type.chars.all isTableChar := by
  refine all_append (type.head.all isTableChar_of_isPlain) (all_append ?_ ?_)
  · exact type.all_moreText rfl fun word _ => word.all isTableChar_of_isPlain
  · rcases type.argumentsText_eq with ⟨_, h⟩ | ⟨text, ha, _, h⟩
    · rw [h]
      rfl
    · rw [h]
      exact all_enclosed (List.all_eq_true.2 fun c hc =>
        isTableChar_of_isArgument (List.all_eq_true.1 ha c hc))

theorem Column.all_flags {p : Char → Bool} (column : Column) (h : " NOT NULL".toList.all p)
    (k : " AUTO_INCREMENT".toList.all p) : column.flags.all p := by
  unfold flags
  refine all_append ?_ ?_
  · split
    · exact h
    · rfl
  · split
    · exact k
    · rfl

theorem Column.all_table (column : Column) : column.chars.all isTableChar :=
  all_append column.name.all_table (all_append (a := [' ']) (by decide)
    (all_append column.type.all_table (column.all_flags (by decide) (by decide))))

theorem Reference.all_table (r : Reference) : r.chars.all isTableChar :=
  all_append (by decide) (all_append (all_enclosed r.column.all_table) (all_append (by decide)
    (all_append r.target.all_table
      (all_append (a := [' ']) (by decide) (all_enclosed r.targetColumn.all_table)))))

theorem TableClause.all_table (clause : TableClause) : clause.chars.all isTableChar := by
  cases clause with
  | column column => exact column.all_table
  | primaryKey names => exact all_append (by decide) (all_enclosed (all_namesText names))
  | unique name => exact all_append (by decide) (all_enclosed name.all_table)
  | reference r => exact r.all_table

theorem all_bodyText (clauses : List TableClause) : (bodyText clauses).all isTableChar := by
  refine all_append (all_intercalate (by decide) fun part hp => ?_) (by decide)
  obtain ⟨clause, _, rfl⟩ := List.mem_map.1 hp
  exact all_append (a := ['\n', '\t']) (by decide) clause.all_table

theorem Table.all_stem (table : Table) : table.stem.all isTableChar :=
  all_append (by decide) (all_append table.id.all_table
    (all_append (a := [' ']) (by decide) (all_enclosed (all_bodyText table.clauses))))

end Characters

section Silence

structure Passes (letters : String) (q : Pattern) : Prop extends Opens letters q where
  letters_eq : letters = "CREATE" ∨ letters = "ALTER"
  table : ∀ rest, (keyed letters q).Silent "CREATE TABLE ".toList rest

def isApart (c : Char) : Bool :=
  !sameLetter 'C' c && !sameLetter 'A' c

theorem avoids_of_forall {letter : Char} {letters text : List Char}
    (h : ∀ c ∈ text, sameLetter letter c = false) : avoids (letter :: letters) text := by
  induction text with
  | nil => rfl
  | cons c text ih =>
    have hc : sameLetter letter c = false := h c List.mem_cons_self
    simp [avoids, departs, hc, ih fun d hd => h d (List.mem_cons_of_mem _ hd)]

variable {letters : String} {q : Pattern} {rest : List Char}

theorem Passes.avoids (h : Passes letters q) {text : List Char}
    (k : ["CREATE", "ALTER"].all fun l => Pattern.avoids l.toList text) :
    Pattern.avoids letters.toList text := by
  rcases h.letters_eq with rfl | rfl
  · exact List.all_eq_true.1 k "CREATE" (by decide)
  · exact List.all_eq_true.1 k "ALTER" (by decide)

theorem silent_apart (h : Passes letters q) (text : List Char) (k : text.all isApart)
    (rest : List Char) : (keyed letters q).Silent text rest := by
  have hk (c : Char) (hc : c ∈ text) : sameLetter 'C' c = false ∧ sameLetter 'A' c = false := by
    simpa [isApart] using List.all_eq_true.1 k c hc
  refine silent_of_avoids ?_
  rcases h.letters_eq with rfl | rfl
  · exact avoids_of_forall fun c hc => (hk c hc).1
  · exact avoids_of_forall fun c hc => (hk c hc).2

theorem Passes.spells_nil (h : Passes letters q) : spells letters [] = false := by
  rcases h.letters_eq with rfl | rfl <;> decide

theorem Passes.spells_of_isUsual (h : Passes letters q) {word : List Char} (k : isUsual word) :
    spells letters word = false := by
  unfold isUsual at k
  rw [Bool.and_eq_true, Bool.not_eq_true', Bool.not_eq_true'] at k
  rcases h.letters_eq with rfl | rfl
  · exact k.1
  · exact k.2

theorem silent_name (h : Passes letters q) (n : Name) (hs : Stops isWord rest)
    (k : spells letters n.word.chars → q.Bars rest) : (keyed letters q).Silent n.chars rest := by
  rcases n.chars_eq with hc | ⟨c, hc, he⟩
  · rw [hc]
    exact silent_word h.plain n.word.plain hs k
  · have hm (rest : List Char) : (keyed letters q).Silent [c] rest :=
      silent_apart h _ (by rcases hc with rfl | rfl <;> decide) rest
    -- No blank follows a word before its closing mark.
    have hword : (keyed letters q).Silent n.word.chars ([c] ++ rest) := by
      refine silent_word h.plain n.word.plain ?_ fun _ => .stop (stops_cons.2 (isBlank_of_mark hc))
      rcases hc with rfl | rfl <;> exact stops_cons.2 rfl
    rw [he]
    exact (hm _).append (hword.append (hm rest))

theorem silent_id (h : Passes letters q) (id : Id) (k : WordEnd spacedEnds rest) :
    (keyed letters q).Silent id.chars rest := by
  have hname := silent_name h id.name k.stops fun _ => k.bars (by decide) h.rejects
  rcases id.chars_eq with ⟨_, hc⟩ | ⟨schema, _, hc⟩
  · rw [hc]
    exact hname
  · rw [hc]
    have hschema : (keyed letters q).Silent schema.chars ('.' :: id.name.chars ++ rest) :=
      silent_name h schema (stops_cons.2 rfl) fun _ => .stop (stops_cons.2 (by decide))
    exact hschema.append ((silent_apart h ['.'] (by decide) _).append hname)

theorem silent_listedName (h : Passes letters q) (n : Name) {c : Char} (hc : c ∈ [',', ')'])
    (rest : List Char) : (keyed letters q).Silent n.chars (c :: rest) := by
  have hend : WordEnd spacedEnds (c :: rest) := Core.wordEnd_comma_or hc rest
  exact silent_name h n hend.stops fun _ => hend.bars (by decide) h.rejects

theorem silent_names (h : Passes letters q) (names : List Name) (rest : List Char) :
    (keyed letters q).Silent (enclosed (namesText names)) rest := by
  refine Core.silent_enclosed h.toOpens (Core.silent_listed h.toOpens ", " (.inl rfl) ?_ rest)
  intro part hp c hc rest
  obtain ⟨n, _, rfl⟩ := List.mem_map.1 hp
  exact silent_listedName h n hc rest

theorem silent_enclosedName (h : Passes letters q) (n : Name) (rest : List Char) :
    (keyed letters q).Silent (enclosed n.chars) rest :=
  Core.silent_enclosed h.toOpens (silent_listedName h n (by decide) rest)

theorem stops_moreText (type : TypeText) {rest : List Char} (h : Stops isWord rest) :
    Stops isWord (type.moreText ++ rest) := by
  unfold TypeText.moreText
  cases type.more with
  | nil => exact h
  | cons word more => exact stops_cons.2 rfl

theorem stops_argumentsText (type : TypeText) {rest : List Char} (h : Stops isWord rest) :
    Stops isWord (type.argumentsText ++ rest) := by
  rcases type.argumentsText_eq with ⟨_, ht⟩ | ⟨text, _, _, ht⟩
  · rw [ht]
    exact h
  · rw [ht]
    exact stops_cons.2 rfl

theorem isApart_of_isArgument {c : Char} (h : isArgument c) : isApart c := by
  rcases Bool.or_eq_true_iff.1 h with h | h
  · simp [isApart, Text.sameLetter_of_isDigit h (l := 'C') (by decide),
      Text.sameLetter_of_isDigit h (l := 'A') (by decide)]
  · simp only [List.contains_eq_mem, List.mem_cons, List.not_mem_nil, or_false,
      decide_eq_true_eq] at h
    rcases h with rfl | rfl | rfl | rfl <;> decide

theorem silent_type (h : Passes letters q) (type : TypeText) (hs : Stops isWord rest) :
    (keyed letters q).Silent type.chars rest := by
  have hword {word : Word} (hw : word ∈ type.head :: type.more) {rest : List Char}
      (hr : Stops isWord rest) : (keyed letters q).Silent word.chars rest :=
    silent_word h.plain word.plain hr fun hsp => by
      simp [h.spells_of_isUsual (type.usual word hw)] at hsp
  have hmore (words : List Word) (hw : ∀ word ∈ words, word ∈ type.more) {rest : List Char}
      (hr : Stops isWord rest) :
      (keyed letters q).Silent (words.flatMap fun word => ' ' :: word.chars) rest ∧
        Stops isWord (words.flatMap (fun word => ' ' :: word.chars) ++ rest) := by
    induction words with
    | nil => exact ⟨silent_nil _ _, hr⟩
    | cons word words ih =>
      obtain ⟨hi, hstops⟩ := ih fun other ho => hw other (List.mem_cons_of_mem _ ho)
      have hspace := silent_apart h [' '] (by decide)
      rw [List.flatMap_cons]
      exact ⟨((hspace _).append
        (hword (List.mem_cons_of_mem _ (hw word List.mem_cons_self)) hstops)).append hi,
        stops_cons.2 rfl⟩
  have harguments : (keyed letters q).Silent type.argumentsText rest := by
    rcases type.argumentsText_eq with ⟨_, ht⟩ | ⟨text, ha, _, ht⟩
    · rw [ht]
      exact silent_nil _ _
    · rw [ht]
      refine silent_apart h _ (all_append (a := ['(']) (by decide) (all_append ?_ (by decide))) rest
      exact List.all_eq_true.2 fun c hc => isApart_of_isArgument (List.all_eq_true.1 ha c hc)
  have hstops := stops_argumentsText type hs
  have hmoreStops : Stops isWord (type.moreText ++ type.argumentsText ++ rest) := by
    rw [List.append_assoc]
    exact stops_moreText type hstops
  have hhead := hword List.mem_cons_self hmoreStops
  exact hhead.append ((hmore type.more (fun _ hw => hw) hstops).1.append harguments)

theorem Column.stops_flags (column : Column) {rest : List Char} (h : Stops isWord rest) :
    Stops isWord (column.flags ++ rest) := by
  unfold flags
  split
  · exact stops_cons.2 rfl
  · split
    · exact stops_cons.2 rfl
    · exact h

theorem silent_flags (h : Passes letters q) (column : Column) (rest : List Char) :
    (keyed letters q).Silent column.flags rest := by
  unfold Column.flags
  refine Silent.append ?_ ?_
  · split
    · exact silent_of_avoids (h.avoids (by decide))
    · exact silent_nil _ _
  · split
    · exact silent_of_avoids (h.avoids (by decide))
    · exact silent_nil _ _

theorem Column.isUsual (column : Column) : isUsual column.name.word.chars := by
  have hnamed := List.all_eq_true.1 column.named
  unfold Written.isUsual
  rw [hnamed "CREATE" (by decide), hnamed "ALTER" (by decide)]
  rfl

theorem silent_column (h : Passes letters q) (column : Column) (hs : Stops isWord rest) :
    (keyed letters q).Silent column.chars rest := by
  have hname : (keyed letters q).Silent column.name.chars
      (' ' :: (column.type.chars ++ column.flags) ++ rest) :=
    silent_name h column.name (stops_cons.2 rfl) fun hsp => by
      simp [h.spells_of_isUsual column.isUsual] at hsp
  have htype := silent_type h column.type (column.stops_flags hs)
  exact hname.append ((silent_apart h [' '] (by decide) _).append
    (htype.append (silent_flags h column rest)))

theorem silent_reference (h : Passes letters q) (r : Reference) (rest : List Char) :
    (keyed letters q).Silent r.chars rest := by
  have hfixed {text : List Char} (k : ["CREATE", "ALTER"].all fun l => avoids l.toList text)
      (rest : List Char) : (keyed letters q).Silent text rest := silent_of_avoids (h.avoids k)
  have htarget := silent_id h r.target (.space (e := "(") (by decide)
    (r.targetColumn.chars ++ [')'] ++ rest))
  have hspace := silent_apart h [' '] (by decide)
  exact (hfixed (by decide) _).append ((silent_enclosedName h r.column _).append
    ((hfixed (by decide) _).append (htarget.append ((hspace _).append
      (silent_enclosedName h r.targetColumn rest)))))

theorem silent_clause (h : Passes letters q) (clause : TableClause) (hs : Stops isWord rest) :
    (keyed letters q).Silent clause.chars rest := by
  cases clause with
  | column column => exact silent_column h column hs
  | primaryKey names =>
    exact (silent_of_avoids (h.avoids (by decide))).append (silent_names h names rest)
  | unique name =>
    exact (silent_of_avoids (h.avoids (by decide))).append (silent_enclosedName h name rest)
  | reference r => exact silent_reference h r rest

theorem silent_body (h : Passes letters q) (clauses : List TableClause) (rest : List Char) :
    (keyed letters q).Silent (bodyText clauses) rest := by
  have hline := silent_apart h ['\n', '\t'] (by decide)
  refine Silent.append ?_ (silent_apart h _ (by decide) rest)
  refine Core.silent_intercalate h.toOpens ", " (.inl rfl) (Stops isWord)
    (fun xs => stops_cons.2 rfl) ?_ (stops_cons.2 rfl)
  intro part hp rest hr
  obtain ⟨clause, _, rfl⟩ := List.mem_map.1 hp
  exact (hline _).append (silent_clause h clause hr)

theorem silent_table (h : Passes letters q) (table : Table) (rest : List Char) :
    (keyed letters q).Silent table.chars rest := by
  have hid := silent_id h table.id (.space (e := "(") (by decide)
    (bodyText table.clauses ++ [')'] ++ ([';'] ++ rest)))
  have hspace := silent_apart h [' '] (by decide)
  have hbody := Core.silent_enclosed h.toOpens
    (silent_body h table.clauses (')' :: ([';'] ++ rest)))
  exact ((h.table _).append (hid.append ((hspace _).append hbody))).append
    (silent_apart h _ (by decide) rest)

theorem passes_createIndex : Passes "CREATE" createIndexTail where
  toOpens := opens_createIndex
  letters_eq := .inl rfl
  table rest := Core.silent_create "TABLE ".toList (stops_cons.2 rfl)
    (Core.failsOn_createIndexTail (.inl rfl) rest) (by decide)

theorem passes_createEnum : Passes "CREATE" createEnumTail where
  toOpens := opens_createEnum
  letters_eq := .inl rfl
  table _ := Core.silent_create "TABLE ".toList (stops_cons.2 rfl)
    (failsOn_word_of_departs (by decide)) (by decide)

theorem passes_addForeignKey : Passes "ALTER" addForeignKeyTail where
  toOpens := opens_addForeignKey
  letters_eq := .inr rfl
  table _ := silent_of_avoids (by decide)

end Silence

section Cutting

open Clause

theorem keeps_quoted (depth : Nat) {c : Char} {text : List Char} (h : c ∉ text) :
    Keeps { depth := depth, mark := some c } text := by
  induction text with
  | nil => exact Core.keeps_nil _
  | cons d text ih =>
    intro rest
    have hne : d ≠ c := fun he => h (he ▸ List.mem_cons_self)
    have hnot : ¬ (d = ',' ∧ ({ depth := depth, mark := some c } : Nesting).isTop) := by
      simp [Nesting.isTop]
    have hafter : ({ depth := depth, mark := some c } : Nesting).after d =
        { depth := depth, mark := some c } := by
      simp [Nesting.after, hne]
    have hrest := ih (fun hd => h (List.mem_cons_of_mem _ hd)) rest
    rw [List.cons_append, Core.cut_cons_of_not_top _ hnot, hafter, hrest]
    cases cut { depth := depth, mark := some c } rest <;> simp

theorem keeps_name (depth : Nat) (n : Name) : Keeps { depth := depth } n.chars := by
  rcases n.chars_eq with h | ⟨c, hc, h⟩
  · rw [h]
    exact Core.keeps_of_all (n.word.all Core.isListChar_of_isPlain) fun _ hin =>
      absurd (n.word.plain _ hin) (by decide)
  · have hm : isMark c = true ∧ c ≠ ',' ∧ isPlain c = false := by
      rcases hc with rfl | rfl <;> decide
    intro rest
    have hword : c ∉ n.word.chars := fun hin => by simp [n.word.plain c hin] at hm
    have hin := keeps_quoted depth hword (c :: rest)
    have hopen := Core.cut_cons_of_not_top { depth := depth } (c := c) (by simp [hm.2.1])
      (n.word.chars ++ c :: rest)
    have hclose := Core.cut_cons_of_not_top { depth := depth, mark := some c } (c := c)
      (by simp [hm.2.1]) rest
    have ho : ({ depth := depth } : Nesting).after c = { depth := depth, mark := some c } := by
      simp [Nesting.after, hm.1]
    have hafter : ({ depth := depth, mark := some c } : Nesting).after c = { depth := depth } := by
      simp [Nesting.after]
    rw [ho, hin, hclose, hafter] at hopen
    have hrest : n.chars ++ rest = c :: (n.word.chars ++ c :: rest) := by simp [h]
    rw [hrest, hopen, h]
    cases cut { depth := depth } rest <;> simp

theorem keeps_names (names : List Name) : Keeps {} (enclosed (namesText names)) := by
  have hsep : Keeps { depth := 1 } ", ".toList := Core.keeps_of_all (by decide) fun h => by cases h
  have hmore (names : List Name) :
      Keeps { depth := 1 } ((names.map Name.chars).flatMap (", ".toList ++ ·)) := by
    induction names with
    | nil => exact Core.keeps_nil _
    | cons n names ih => exact (hsep.append (keeps_name 1 n)).append ih
  refine Keeps.enclosed ?_
  unfold namesText
  cases names with
  | nil => exact Core.keeps_nil _
  | cons n names =>
    rw [List.map_cons, Text.intercalate_cons]
    exact (keeps_name 1 n).append (hmore names)

theorem keeps_id (id : Id) : Keeps {} id.chars := by
  rcases id.chars_eq with ⟨_, h⟩ | ⟨schema, _, h⟩
  · rw [h]
    exact keeps_name 0 id.name
  · have hdot : Keeps {} ['.'] := Core.keeps_of_forall (by simp [isMark])
    rw [h]
    exact (keeps_name 0 schema).append (hdot.append (keeps_name 0 id.name))

theorem keeps_type (type : TypeText) : Keeps {} type.chars := by
  have hmore : Keeps {} type.moreText := Core.keeps_text
    (type.all_moreText rfl fun word _ => word.all fun c hc => by simp [hc])
  refine (Core.keeps_word type.head).append (hmore.append ?_)
  rcases type.argumentsText_eq with ⟨_, h⟩ | ⟨text, ha, _, h⟩
  · rw [h]
    exact Core.keeps_nil _
  · rw [h]
    refine Keeps.enclosed (Core.keeps_of_forall fun c hc => ?_)
    have hk := List.all_eq_true.1 ha c hc
    have hne {d : Char} (hd : isArgument d = false) : c ≠ d := by
      rintro rfl
      simp [hk] at hd
    have hmark : isMark c = false := by
      simpa [isMark, and_assoc] using ⟨hne (d := '\'') (by decide), hne (d := '"') (by decide),
        hne (d := '`') (by decide)⟩
    exact ⟨hmark, hne (by decide), hne (by decide), fun h => by cases h⟩

theorem keeps_clause (clause : TableClause) : Keeps {} clause.chars := by
  have hname (n : Name) : Keeps {} (enclosed n.chars) := (keeps_name 1 n).enclosed
  have hspace : Keeps {} [' '] := Core.keeps_text (by decide)
  cases clause with
  | column column =>
    have hflags : Keeps {} column.flags :=
      Core.keeps_text (column.all_flags (by decide) (by decide))
    exact (keeps_name 0 column.name).append
      (hspace.append ((keeps_type column.type).append hflags))
  | primaryKey names => exact (Core.keeps_text (by decide)).append (keeps_names names)
  | unique name => exact (Core.keeps_text (by decide)).append (hname name)
  | reference r =>
    exact (Core.keeps_text (by decide)).append ((hname r.column).append
      ((Core.keeps_text (by decide)).append ((keeps_id r.target).append
        (hspace.append (hname r.targetColumn)))))

end Cutting

end SchemaText.Sql.Written
