import SchemaText.Proofs.Sql.WrittenTable
/-! Scripts of written tables, read as the tables and the keys that they define. -/

namespace SchemaText.Sql.Written

open Pattern Statement
open Sql.Core (Word enclosed)
open Diagram (isPlain)
open Text (Stops stops_nil stops_cons isWord)

section Comments

structure Uncommented (text : List Char) : Prop where
  stops : Stops (· == '-') text
  blankLines : ∀ rest, Stops (· == '-') rest →
    Comment.blankLines false (text ++ rest) = text ++ Comment.blankLines false rest

theorem uncommented_of_notMem (text : List Char) (h : '-' ∉ text) : Uncommented text where
  stops c hc := by simpa using fun he : c = '-' => h (he ▸ List.mem_of_mem_head? hc)
  blankLines _ hr :=
    Comment.blankLines_append (fun hin => h (hin.subset List.mem_cons_self)) hr

theorem stops_append {accepts : Char → Bool} {xs ys : List Char} (h : Stops accepts xs)
    (k : Stops accepts ys) : Stops accepts (xs ++ ys) := by
  cases xs with
  | nil => exact k
  | cons c xs => exact stops_cons.2 (stops_cons.1 h)

theorem Uncommented.append {xs ys : List Char} (h : Uncommented xs) (k : Uncommented ys) :
    Uncommented (xs ++ ys) where
  stops := stops_append h.stops k.stops
  blankLines rest hr := by
    rw [List.append_assoc, h.blankLines _ (stops_append k.stops hr), k.blankLines rest hr,
      List.append_assoc]

theorem uncommented_intercalate {sep : List Char} {parts : List (List Char)} (hs : '-' ∉ sep)
    (h : ∀ part ∈ parts, Uncommented part) : Uncommented (sep.intercalate parts) := by
  have hmore (parts : List (List Char)) (h : ∀ part ∈ parts, Uncommented part) :
      Uncommented (parts.flatMap (sep ++ ·)) := by
    induction parts with
    | nil => exact uncommented_of_notMem _ (by simp)
    | cons part parts ih =>
      rw [List.flatMap_cons]
      exact ((uncommented_of_notMem _ hs).append (h part List.mem_cons_self)).append
        (ih fun other ho => h other (List.mem_cons_of_mem _ ho))
  cases parts with
  | nil => exact uncommented_of_notMem _ (by simp [List.intercalate])
  | cons part parts =>
    rw [Text.intercalate_cons]
    exact (h part List.mem_cons_self).append
      (hmore parts fun other ho => h other (List.mem_cons_of_mem _ ho))

theorem uncommented_enclosed {text : List Char} (h : ¬ ['-', '-'] <:+: text) :
    Uncommented (enclosed text) where
  stops := stops_cons.2 rfl
  blankLines rest hr := by
    have hclose : Comment.blankLines false (')' :: rest) = ')' :: Comment.blankLines false rest :=
      (uncommented_of_notMem [')'] (by decide)).blankLines rest hr
    have htext : enclosed text ++ rest = '(' :: (text ++ ')' :: rest) := by simp [enclosed]
    have hopen : Comment.blankLines false ('(' :: (text ++ ')' :: rest)) =
        '(' :: Comment.blankLines false (text ++ ')' :: rest) := rfl
    rw [htext, hopen, Comment.blankLines_append h (stops_cons.2 rfl), hclose]
    simp [enclosed]

theorem hyphen_notMem_of_isPlain {text : List Char} (h : ∀ c ∈ text, isPlain c) : '-' ∉ text :=
  fun hin => absurd (h _ hin) (by decide)

theorem Name.uncommented (n : Name) : Uncommented n.chars := by
  have hword := hyphen_notMem_of_isPlain n.word.plain
  rcases n.chars_eq with h | ⟨c, hc, h⟩
  · exact uncommented_of_notMem _ (h ▸ hword)
  · refine uncommented_of_notMem _ ?_
    rcases hc with rfl | rfl <;> simpa [h] using hword

theorem Name.uncommented_enclosed (n : Name) : Uncommented (enclosed n.chars) :=
  (uncommented_of_notMem ['('] (by decide)).append
    (n.uncommented.append (uncommented_of_notMem _ (by decide)))

theorem Id.uncommented (id : Id) : Uncommented id.chars := by
  rcases id.chars_eq with ⟨_, h⟩ | ⟨schema, _, h⟩
  · rw [h]
    exact id.name.uncommented
  · rw [h]
    exact schema.uncommented.append
      ((uncommented_of_notMem ['.'] (by decide)).append id.name.uncommented)

theorem TypeText.uncommented (type : TypeText) : Uncommented type.chars := by
  have hmore : '-' ∉ type.moreText := by
    intro hin
    obtain ⟨word, _, hc⟩ := List.mem_flatMap.1 hin
    rcases List.mem_cons.1 hc with hc | hc
    · cases hc
    · exact hyphen_notMem_of_isPlain word.plain hc
  refine (uncommented_of_notMem _ (hyphen_notMem_of_isPlain type.head.plain)).append
    ((uncommented_of_notMem _ hmore).append ?_)
  rcases type.argumentsText_eq with ⟨_, h⟩ | ⟨text, _, hd, h⟩
  · rw [h]
    exact uncommented_of_notMem _ (by simp)
  · rw [h]
    exact Written.uncommented_enclosed hd

theorem TableClause.uncommented (clause : TableClause) : Uncommented clause.chars := by
  have hfixed (text : List Char) (h : '-' ∉ text) := uncommented_of_notMem text h
  cases clause with
  | column column =>
    have hflags : '-' ∉ column.flags := fun hin => by
      have hall := column.all_flags (p := fun c => !(c == '-')) (by decide) (by decide)
      simpa using List.all_eq_true.1 hall _ hin
    exact column.name.uncommented.append ((hfixed [' '] (by decide)).append
      (column.type.uncommented.append (hfixed _ hflags)))
  | primaryKey names =>
    have hnames : Uncommented (namesText names) := by
      refine uncommented_intercalate (by decide) fun part hp => ?_
      obtain ⟨n, _, rfl⟩ := List.mem_map.1 hp
      exact n.uncommented
    exact (hfixed _ (by decide)).append ((hfixed ['('] (by decide)).append
      (hnames.append (hfixed _ (by decide))))
  | unique name => exact (hfixed _ (by decide)).append name.uncommented_enclosed
  | reference r =>
    exact (hfixed _ (by decide)).append (r.column.uncommented_enclosed.append
      ((hfixed _ (by decide)).append (r.target.uncommented.append
        ((hfixed [' '] (by decide)).append r.targetColumn.uncommented_enclosed))))

theorem Table.uncommented (table : Table) : Uncommented table.chars := by
  have hfixed (text : List Char) (h : '-' ∉ text) := uncommented_of_notMem text h
  have hbody : Uncommented (bodyText table.clauses) := by
    refine (uncommented_intercalate (by decide) fun part hp => ?_).append (hfixed _ (by decide))
    obtain ⟨clause, _, rfl⟩ := List.mem_map.1 hp
    exact (hfixed ['\n', '\t'] (by decide)).append clause.uncommented
  exact ((hfixed _ (by decide)).append (table.id.uncommented.append
    ((hfixed [' '] (by decide)).append ((hfixed ['('] (by decide)).append
      (hbody.append (hfixed _ (by decide))))))).append (hfixed _ (by decide))

theorem uncommented_restText (tables : List Table) : Uncommented (restText tables) := by
  induction tables with
  | nil => exact uncommented_of_notMem _ (by decide)
  | cons table tables ih =>
    exact (uncommented_of_notMem ['\n', '\n'] (by decide)).append
      (table.uncommented.append ih)

theorem all_restText (tables : List Table) :
    (restText tables).all fun c => isTableChar c || c == ';' := by
  have hstem (table : Table) : table.stem.all fun c => isTableChar c || c == ';' :=
    List.all_eq_true.2 fun c hc => by simp [List.all_eq_true.1 table.all_stem c hc]
  induction tables with
  | nil => decide
  | cons table tables ih =>
    exact Core.all_append (a := ['\n', '\n']) (by decide)
      (Core.all_append (Core.all_append (hstem table) (by decide)) ih)

theorem scriptText_cons (table : Table) (tables : List Table) :
    '\n' :: '\n' :: scriptText (table :: tables) = restText (table :: tables) := rfl

theorem strip_scriptText (tables : List Table) :
    Comment.strip (scriptText tables) = scriptText tables := by
  cases tables with
  | nil => rfl
  | cons table tables =>
    have hnot {c : Char} (hc : (isTableChar c || c == ';') = false) :
        c ∉ scriptText (table :: tables) := fun hin => by
      have hrest : c ∈ restText (table :: tables) := by
        rw [← scriptText_cons]
        exact List.mem_cons_of_mem _ (List.mem_cons_of_mem _ hin)
      rw [List.all_eq_true.1 (all_restText _) c hrest] at hc
      cases hc
    have hlines :=
      (table.uncommented.append (uncommented_restText tables)).blankLines [] (stops_nil _)
    rw [List.append_nil] at hlines
    unfold Comment.strip
    rw [Comment.foldLineEnds_of_notMem (hnot (by decide))]
    have hkeep : Comment.blankLines false (scriptText (table :: tables)) =
        scriptText (table :: tables) := hlines.trans (List.append_nil _)
    rw [hkeep, Comment.blankBlocks_of_notMem (hnot (by decide))]

end Comments

section Matches

inductive Finds : Nat → List Table → List Match → Prop where
  | nil (offset : Nat) : Finds offset [] []
  | cons {offset : Nat} {table : Table} {tables : List Table} {m : Match} {found : List Match}
    (h : Covers offset table m) (k : Finds (offset + table.chars.length + 2) tables found) :
    Finds offset (table :: tables) (m :: found)

theorem failsOn_lineEnd {letters : String} {p q : Pattern} (hp : p.Agrees (keyed letters q))
    (hl : letters.toList.all isPlain) (hn : spells letters [] = false) (rest : List Char) :
    p.FailsOn ('\n' :: rest) :=
  hp.failsOn (failsOn_keyed_of_stops hl hn (stops_cons.2 rfl))

theorem failsOn_end {letters : String} {p q : Pattern} (hp : p.Agrees (keyed letters q))
    (hl : letters.toList.all isPlain) (hn : spells letters [] = false) : p.FailsOn [] :=
  hp.failsOn (failsOn_keyed_of_stops hl hn (stops_nil _))

theorem exists_finds_from (table : Table) (tables : List Table) {free : Nat} {s : Spot}
    (hs : s.rest = table.chars ++ restText tables) (hc : s.captures = [])
    (hb : s.before.any isWord = false) (hf : free ≤ s.offset) :
    Finds s.offset (table :: tables) (createTable.findFrom free s.onward) := by
  have hline := failsOn_lineEnd agrees_createTable (by decide) (by decide)
  have hempty := failsOn_end agrees_createTable (by decide) (by decide)
  induction tables generalizing table s free with
  | nil =>
    obtain ⟨m, hm, hcovers⟩ := exists_covers table hc hb hs
    have hrest : restText [] = ['\n'] ++ [] := rfl
    rw [findFrom_of_match hs (by simp [Table.chars]) hm hcovers.stop hf, hrest,
      findFrom_of_silent (silent_singleton (hline [])) rfl, findFrom_end hempty rfl]
    exact .cons hcovers (.nil _)
  | cons next tables ih =>
    obtain ⟨m, hm, hcovers⟩ := exists_covers table hc hb hs
    have hsilent : createTable.Silent ['\n', '\n'] (next.chars ++ restText tables) :=
      (silent_singleton (hline _)).append (silent_singleton (hline _))
    have hrest : restText (next :: tables) = ['\n', '\n'] ++ (next.chars ++ restText tables) := rfl
    rw [findFrom_of_match hs (by simp [Table.chars]) hm hcovers.stop hf, hrest,
      findFrom_of_silent hsilent rfl, Spot.past_past]
    have hbefore : (table.chars ++ ['\n', '\n']).getLast?.or s.before = some '\n' := by simp
    have hnext := @ih next m.stop
      (s.past (table.chars ++ ['\n', '\n']) (next.chars ++ restText tables))
      rfl hc
      (by simp only [Spot.past, hbefore]; decide)
      (by rw [hcovers.stop]; simp only [Spot.past, List.length_append]; omega)
    refine .cons hcovers ?_
    simpa [Spot.past, Nat.add_assoc] using hnext

theorem finds_tables (tables : List Table) :
    Finds 0 tables (createTable.findAll (scriptText tables)) := by
  unfold findAll
  cases tables with
  | nil =>
    have hempty := failsOn_end agrees_createTable (by decide) (by decide)
    have hfind : createTable.findFrom 0 (Spot.all (scriptText [])) = [] :=
      findFrom_end hempty (s := ⟨0, none, [], []⟩) rfl 0
    rw [hfind]
    exact .nil 0
  | cons table tables =>
    exact exists_finds_from table tables (s := ⟨0, none, scriptText (table :: tables), []⟩) rfl rfl
      rfl (Nat.le_refl 0)

theorem findAll_eq_nil {letters : String} {p q : Pattern} (hp : p.Agrees (keyed letters q))
    (h : Passes letters q) (tables : List Table) : p.findAll (scriptText tables) = [] := by
  have hline := failsOn_lineEnd hp h.plain h.spells_nil
  have hrest (tables : List Table) : p.Silent (restText tables) [] := by
    induction tables with
    | nil => exact silent_singleton (hline [])
    | cons table tables ih =>
      have hopen : p.Silent ['\n', '\n'] (table.chars ++ restText tables ++ []) :=
        (silent_singleton (hline _)).append (silent_singleton (hline _))
      exact hopen.append ((hp.silent (silent_table h table _)).append ih)
  have hsilent : p.Silent (scriptText tables) [] := by
    cases tables with
    | nil => exact silent_nil _ _
    | cons table tables => exact (hp.silent (silent_table h table _)).append (hrest tables)
  have hfind := findFrom_of_silent hsilent (s := ⟨0, none, scriptText tables, []⟩)
    (List.append_nil _).symm 0
  exact hfind.trans (findFrom_end (failsOn_end hp h.plain h.spells_nil) rfl 0)

end Matches

section Progress

theorem foldl_addTable {tables : List Table} {offset : Nat} {found : List Match}
    (h : Finds offset tables found) (progress : Progress)
    (k : (progress.tables.map SchemaText.Table.id ++ tables.map fun table => table.id.text).Nodup) :
    found.foldl Progress.addTable progress =
      { tables := progress.tables ++ tables.map Table.table
        relationships := progress.relationships ++ tables.flatMap Table.relationships
        diagnostics := progress.diagnostics } := by
  induction h generalizing progress with
  | nil => simp
  | @cons offset table tables m found hm _ ih =>
    have hnew : table.id.text ∉ progress.tables.map SchemaText.Table.id := by
      intro hin
      rw [List.map_cons, List.nodup_append] at k
      exact k.2.2 _ hin _ List.mem_cons_self rfl
    rw [List.foldl_cons, addTable_eq hm hnew, ih]
    · simp
    · have hid : table.table.id = table.id.text := rfl
      simpa [hid] using k

end Progress

section Coverage

theorem Finds.isCovered {table : Table} {tables : List Table} {offset : Nat} {found : List Match}
    (h : Finds offset (table :: tables) found) {covered : List (Nat × Nat)}
    (k : ∀ m ∈ found, (m.start, m.stop) ∈ covered) : isCovered covered offset := by
  cases h with
  | @cons _ _ _ m _ hm _ =>
    have hlen : 0 < table.chars.length := List.length_pos_iff.2 (by simp [Table.chars])
    refine List.any_eq_true.2 ⟨_, k m List.mem_cons_self, ?_⟩
    rw [hm.start, hm.stop]
    simp only [Bool.and_eq_true, decide_eq_true_eq]
    omega

theorem split_table (table : Table) (rest : List Char) :
    Text.split (· == ';') (table.chars ++ rest) = table.stem :: Text.split (· == ';') rest := by
  have hstem : Text.split (· == ';') table.stem = [table.stem] := by
    refine Text.split_eq_singleton fun c hc => ?_
    simpa using fun he : c = ';' => ne_of_isTableChar table.all_stem (by decide) (he ▸ hc)
  have ht : table.chars ++ rest = table.stem ++ ';' :: rest := by simp [Table.chars]
  rw [ht, Text.split_append_cons (by decide), hstem]
  rfl

theorem reportStretch_stem {covered : List (Nat × Nat)} {offset : Nat} (blank : List Char)
    (hb : blank.all Text.isBlank) (table : Table)
    (h : isCovered covered (offset + blank.length)) :
    reportStretch covered (offset, blank ++ table.stem) = [] :=
  Core.reportStretch_of_covered (List.all_eq_true.1 hb) (by decide) _ h

theorem reports_restText {covered : List (Nat × Nat)} {tables : List Table} {offset : Nat}
    {found : List Match} (h : Finds (offset + 2) tables found)
    (k : ∀ m ∈ found, (m.start, m.stop) ∈ covered) :
    (Text.located offset (Text.split (· == ';') (restText tables))).flatMap
        (reportStretch covered) =
      [] := by
  induction tables generalizing offset found with
  | nil =>
    have hnil : reportStretch covered (offset, ['\n']) = [] :=
      Core.reportStretch_of_trim_eq_nil (by decide)
    simpa [restText, Text.split, Text.located] using hnil
  | cons table tables ih =>
    -- A stretch starts with the line ends before its table, which are no part of the statement.
    have hfirst : reportStretch covered (offset, '\n' :: '\n' :: table.stem) = [] :=
      reportStretch_stem ['\n', '\n'] rfl table (h.isCovered k)
    have hoffset : offset + ('\n' :: '\n' :: table.stem).length + 1 + 2 =
        offset + 2 + table.chars.length + 2 := by
      simp only [Table.chars, List.length_append, List.length_cons, List.length_nil]
      omega
    cases h with
    | cons hm hrest =>
      rw [← hoffset] at hrest
      have hmore := ih hrest fun m hm => k m (List.mem_cons_of_mem _ hm)
      rw [restText, Text.split_cons_of_not_separates (by decide),
        Text.split_cons_of_not_separates (by decide), split_table, List.modifyHead_cons,
        List.modifyHead_cons, Text.located, List.flatMap_cons, hfirst, hmore]
      rfl

theorem reportUnrecognised_eq_nil {covered : List (Nat × Nat)} {tables : List Table}
    {found : List Match} (h : Finds 0 tables found)
    (k : ∀ m ∈ found, (m.start, m.stop) ∈ covered) :
    reportUnrecognised covered (scriptText tables) = [] := by
  unfold reportUnrecognised
  cases h with
  | nil => rfl
  | @cons _ table tables m found hm hrest =>
    have hcovered : isCovered covered 0 := (Finds.cons hm hrest).isCovered k
    have hlen : 0 + table.chars.length + 2 = 0 + table.stem.length + 1 + 2 := by
      simp [Table.chars]
    rw [hlen] at hrest
    have hmore := reports_restText hrest fun m hm => k m (List.mem_cons_of_mem _ hm)
    have hfirst : reportStretch covered (0, table.stem) = [] :=
      reportStretch_stem [] rfl table hcovered
    rw [scriptText, split_table, Text.located, List.flatMap_cons, hfirst, hmore]
    rfl

end Coverage

theorem read_tables {tables : List Table} (h : (tables.map fun table => table.id.text).Nodup) :
    read (String.ofList (scriptText tables)) =
      ⟨{ tables := tables.map Table.table
         relationships := tables.flatMap Table.relationships }, []⟩ := by
  have hfinds := finds_tables tables
  have hindexes := findAll_eq_nil agrees_createIndex passes_createIndex tables
  have hkeys := findAll_eq_nil agrees_addForeignKey passes_addForeignKey tables
  have henums := findAll_eq_nil agrees_createEnum passes_createEnum tables
  have hreports : reportUnrecognised (Statements.ofText (scriptText tables)).spans
      (scriptText tables) = [] := by
    refine reportUnrecognised_eq_nil hfinds fun m hm => List.mem_map_of_mem ?_
    simp only [List.mem_append]
    exact .inl (.inl (.inl hm))
  have hprogress : (Statements.ofText (scriptText tables)).progress =
      { tables := tables.map Table.table, relationships := tables.flatMap Table.relationships
        diagnostics := [] } := by
    unfold Statements.progress Statements.ofText
    rw [hindexes, hkeys, foldl_addTable hfinds {} (by simpa using h)]
    simp
  unfold read readStripped
  rw [String.toList_ofList, strip_scriptText]
  simp only [hprogress, hreports, List.append_nil]
  simp [Statements.ofText, henums, sortDiagnostics]

end SchemaText.Sql.Written
