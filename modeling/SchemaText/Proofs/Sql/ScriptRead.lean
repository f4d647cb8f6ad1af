import SchemaText.Proofs.Sql.CommentFree
import SchemaText.Proofs.Sql.Gathered
/-! Scripts of the core grammar, read as the schemas that they define. -/

namespace SchemaText.Sql.Core

open Pattern Statement
open Text (stops_nil stops_cons)

section Comments

theorem strip_scriptText (script : List Definition) :
    Comment.strip (scriptText script).toList = (scriptText script).toList := by
  have hfree {c : Char} (hc : isStemChar c = false) (hs : c ≠ ';') (hl : c ≠ '\n') :
      c ∉ (scriptText script).toList := by
    intro hin
    unfold scriptText at hin
    rw [String.toList_ofList] at hin
    rcases Text.mem_intercalate hin with hin | ⟨part, hp, hin⟩
    · exact hl (List.mem_singleton.1 hin)
    · obtain ⟨definition, _, rfl⟩ := List.mem_map.1 hp
      rcases List.mem_append.1 hin with hin | hin
      · simp [List.all_eq_true.1 definition.all_stem c hin] at hc
      · exact hs (List.mem_singleton.1 hin)
  unfold Comment.strip
  rw [Comment.foldLineEnds_of_notMem (hfree (by decide) (by decide) (by decide)),
    Comment.blankLines_of_notMem (hfree (by decide) (by decide) (by decide)),
    Comment.blankBlocks_of_notMem (hfree (by decide) (by decide) (by decide))]

end Comments

section Coverage

def AllCovered (covered : List (Nat × Nat)) (script : List (Nat × Definition)) : Prop :=
  ∀ place ∈ script, isCovered covered place.1

theorem Finds.exists_mem {texts? : Definition → Option (List (String × List Char))}
    {script : List (Nat × Definition)} {found : List Match} (k : Finds texts? script found)
    {place : Nat × Definition} (hp : place ∈ script) {texts : List (String × List Char)}
    (ht : texts? place.2 = some texts) : ∃ m ∈ found, Covers place.1 place.2 texts m := by
  induction k with
  | nil => simp at hp
  | skip hn _ ih =>
    rcases List.mem_cons.1 hp with rfl | hp
    · rw [hn] at ht
      cases ht
    · exact ih hp
  | found hx hm _ ih =>
    rcases List.mem_cons.1 hp with rfl | hp
    · rw [hx] at ht
      cases ht
      exact ⟨_, List.mem_cons_self, hm⟩
    · obtain ⟨m, hin, hc⟩ := ih hp
      exact ⟨m, List.mem_cons_of_mem _ hin, hc⟩

theorem Covers.isCovered {offset : Nat} {definition : Definition}
    {texts : List (String × List Char)} {m : Match} (h : Covers offset definition texts m)
    {covered : List (Nat × Nat)} (k : (m.start, m.stop) ∈ covered) :
    isCovered covered offset := by
  have hlen : 0 < definition.chars.length := List.length_pos_iff.2 definition.chars_ne_nil
  refine List.any_eq_true.2 ⟨_, k, ?_⟩
  rw [h.start, h.stop]
  simp only [Bool.and_eq_true, decide_eq_true_eq]
  omega

theorem reportStretch_of_covered {covered : List (Nat × Nat)} {offset : Nat}
    {blank : List Char} (hb : ∀ d ∈ blank, Text.isBlank d) {c : Char} (hc : Text.isBlank c = false)
    (text : List Char) (h : isCovered covered (offset + blank.length)) :
    reportStretch covered (offset, blank ++ c :: text) = [] := by
  have hstart : offset + ((blank ++ c :: text).length - (c :: text).length) =
      offset + blank.length := by
    rw [List.length_append, Nat.add_sub_cancel]
  unfold reportStretch
  rw [Text.trimStart_append_cons hb hc, hstart]
  exact if_pos (.inr h)

theorem reportStretch_of_trim_eq_nil {covered : List (Nat × Nat)} {offset : Nat}
    {text : List Char} (h : Text.trim text = []) : reportStretch covered (offset, text) = [] := by
  unfold reportStretch
  exact if_pos (.inl h)

theorem exists_stem_cons (definition : Definition) :
    ∃ c text, definition.stem = c :: text ∧ Text.isBlank c = false := by
  cases definition with
  | index unique name owner columns =>
    cases unique
    · exact ⟨'C', _, rfl, by decide⟩
    · exact ⟨'C', _, rfl, by decide⟩
  | foreignKey owner pairs target => exact ⟨'A', _, rfl, by decide⟩
  | _ => exact ⟨'C', _, rfl, by decide⟩

theorem reportStretch_definition {covered : List (Nat × Nat)} {offset : Nat} (blank : List Char)
    (hb : blank.all Text.isBlank) (definition : Definition)
    (h : isCovered covered (offset + blank.length)) :
    reportStretch covered (offset, blank ++ definition.stem) = [] := by
  obtain ⟨c, text, hstem, hc⟩ := exists_stem_cons definition
  rw [hstem]
  exact reportStretch_of_covered (List.all_eq_true.1 hb) hc text h

theorem split_stem (definition : Definition) :
    Text.split (· == ';') definition.stem = [definition.stem] := by
  refine Text.split_eq_singleton fun c hc => ?_
  have hne : c ≠ ';' := by
    rintro rfl
    exact semicolon_not_mem definition.all_stem hc
  simpa using hne

theorem split_definition (definition : Definition) (rest : List Char) :
    Text.split (· == ';') (definition.chars ++ rest) =
      definition.stem :: Text.split (· == ';') rest := by
  have ht : definition.chars ++ rest = definition.stem ++ ';' :: rest := by
    simp [Definition.chars]
  rw [ht, Text.split_append_cons (by decide), split_stem]
  rfl

theorem reports_lines {covered : List (Nat × Nat)} {script : List Definition} {offset : Nat}
    (h : AllCovered covered (placed (offset + 1) script)) :
    (Text.located offset (Text.split (· == ';') (linesText script))).flatMap
      (reportStretch covered) = [] := by
  induction script generalizing offset with
  | nil =>
    have hnil : reportStretch covered (offset, []) = [] := reportStretch_of_trim_eq_nil rfl
    simpa [linesText, Text.split, Text.located] using hnil
  | cons definition script ih =>
    have hline : linesText (definition :: script) =
        '\n' :: (definition.chars ++ linesText script) := by
      simp [linesText]
    -- A stretch starts with the line end before its definition, which is no part of the statement.
    have hfirst : reportStretch covered (offset, '\n' :: definition.stem) = [] :=
      reportStretch_definition ['\n'] rfl definition
        (h (offset + 1, definition) List.mem_cons_self)
    have hnext : AllCovered covered
        (placed (offset + ('\n' :: definition.stem).length + 1 + 1) script) := by
      intro place hp
      refine h place (List.mem_cons_of_mem _ ?_)
      have hoffset : offset + 1 + definition.chars.length + 1 =
          offset + ('\n' :: definition.stem).length + 1 + 1 := by
        simp only [Definition.chars, List.length_append, List.length_cons, List.length_nil]
        omega
      rwa [hoffset]
    rw [hline, Text.split_cons_of_not_separates (by decide), split_definition, List.modifyHead_cons,
      Text.located, List.flatMap_cons, hfirst, ih hnext]
    rfl

theorem reportUnrecognised_eq_nil {covered : List (Nat × Nat)} {script : List Definition}
    (h : AllCovered covered (placed 0 script)) :
    reportUnrecognised covered (scriptText script).toList = [] := by
  unfold reportUnrecognised scriptText
  rw [String.toList_ofList]
  cases script with
  | nil => rfl
  | cons definition script =>
    have hfirst : reportStretch covered (0, definition.stem) = [] :=
      reportStretch_definition [] rfl definition
        (h (0, definition) List.mem_cons_self)
    have hnext : AllCovered covered (placed (0 + definition.stem.length + 1 + 1) script) := by
      intro place hp
      refine h place (List.mem_cons_of_mem _ ?_)
      have hoffset : 0 + definition.chars.length + 1 = 0 + definition.stem.length + 1 + 1 := by
        simp [Definition.chars]
      rwa [hoffset]
    have htext : (definition :: script).map Definition.chars =
        definition.chars :: script.map Definition.chars := rfl
    rw [htext, Text.intercalate_cons, split_definition, Text.located, List.flatMap_cons, hfirst]
    exact reports_lines hnext

end Coverage

section Order

theorem offset_le_of_mem_redefinitions {script : List Definition} {known : List String}
    {offset : Nat} {diagnostic : Diagnostic}
    (h : diagnostic ∈ redefinitions known (placed offset script)) : offset ≤ diagnostic.offset := by
  induction script generalizing known offset with
  | nil => simp [placed, redefinitions] at h
  | cons definition script ih =>
    unfold placed redefinitions at h
    split at h
    · have := ih h
      omega
    · rcases List.mem_append.1 h with h | h
      · split at h
        · obtain rfl := List.mem_singleton.1 h
          exact Nat.le_refl offset
        · simp at h
      · have := ih h
        omega

theorem pairwise_redefinitions (script : List Definition) (known : List String) (offset : Nat) :
    (redefinitions known (placed offset script)).Pairwise fun a b =>
      decide (a.offset ≤ b.offset) = true := by
  -- Reports stand at the offsets of their definitions, which grow along the script.
  induction script generalizing known offset with
  | nil => exact List.Pairwise.nil
  | cons definition script ih =>
    unfold placed redefinitions
    split
    · exact ih known _
    · next table _ =>
      rw [List.pairwise_append]
      refine ⟨?_, ih _ _, fun a ha b hb => ?_⟩
      · split
        · exact List.pairwise_singleton _ _
        · exact List.Pairwise.nil
      · have hle := offset_le_of_mem_redefinitions hb
        split at ha
        · obtain rfl := List.mem_singleton.1 ha
          have ho : ((Fault.tableReplaced table.id).diagnostic offset).offset = offset := rfl
          simp only [decide_eq_true_eq, ho]
          omega
        · simp at ha

theorem redefinitions_eq_nil {script : List Definition} {known : List String} {offset : Nat}
    (h : (tableIds script).Nodup) (k : ∀ id ∈ tableIds script, id ∉ known) :
    redefinitions known (placed offset script) = [] := by
  induction script generalizing known offset with
  | nil => rfl
  | cons definition script ih =>
    unfold placed redefinitions
    unfold tableIds at h k
    split
    · next hn =>
      rw [List.filterMap_cons, hn] at h k
      exact ih h k
    · next table ht =>
      rw [List.filterMap_cons, ht] at h k
      obtain ⟨hnot, hnodup⟩ := List.nodup_cons.1 h
      rw [if_neg (k table.id List.mem_cons_self), ih hnodup]
      · rfl
      · intro id hid hin
        rcases List.mem_cons.1 hin with rfl | hin
        · exact hnot hid
        · exact k id (List.mem_cons_of_mem _ hid) hin

end Order

/-- The definitions fit, and every index belongs to a table that is defined somewhere. -/
structure ScriptFits (script : List Definition) : Prop where
  definitions : ∀ definition ∈ script, definition.Fits
  owners : ∀ definition ∈ script, ∀ id ∈ definition.owner?, id ∈ tableIds script

section Reading

variable {script : List Definition}

theorem indexNamed_of_fits {definition : Definition} (h : definition.Fits) :
    definition.indexNamed := by
  cases definition with
  | index unique name owner columns =>
    have hn : spells "CONCURRENTLY" name.chars = false := h.1
    simp [Definition.indexNamed, hn]
  | _ => rfl

theorem exists_finds_keyed {p q : Pattern} {letters : String}
    {texts? : Definition → Option (List (String × List Char))}
    (hp : p.Agrees (keyed letters q)) (hl : letters.toList.all Diagram.isPlain)
    (hn : spells letters [] = false)
    (h : ∀ definition ∈ script, Recognises p texts? definition) :
    Finds texts? (placed 0 script) (p.findAll (scriptText script).toList) := by
  have he : p.FailsOn [] :=
    hp.failsOn (failsOn_keyed_of_stops hl hn (stops_nil _))
  have hline (rest : List Char) : p.FailsOn ('\n' :: rest) :=
    hp.failsOn (failsOn_keyed_of_stops hl hn (stops_cons.2 rfl))
  obtain ⟨found, hf, hfinds⟩ := exists_finds h he hline
  rwa [hf]

theorem ids_foldl_putTable (added tables : List Table) (h : (tables.map Table.id).Nodup) :
    ((added.foldl (fun tables table => putTable table tables) tables).map Table.id).Nodup ∧
      ∀ id, id ∈ (added.foldl (fun tables table => putTable table tables) tables).map Table.id ↔
        id ∈ tables.map Table.id ∨ id ∈ added.map Table.id := by
  induction added generalizing tables with
  | nil => exact ⟨h, by simp⟩
  | cons table added ih =>
    obtain ⟨hnodup, hmem⟩ := ih (putTable table tables) (nodup_putTable h)
    refine ⟨hnodup, fun id => ?_⟩
    rw [List.foldl_cons, hmem, ids_putTable, List.map_cons, List.mem_cons]
    split
    · next hin =>
      constructor
      · exact fun hi => hi.imp_right .inr
      · rintro (hi | rfl | hi)
        · exact .inl hi
        · exact .inl hin
        · exact .inr hi
    · rw [List.mem_append, List.mem_singleton, or_assoc]

theorem putTable_of_notMem {table : Table} {tables : List Table}
    (h : table.id ∉ tables.map Table.id) : putTable table tables = tables ++ [table] := by
  induction tables with
  | nil => rfl
  | cons first tables ih =>
    have hne : first.id ≠ table.id := fun he => h (by simp [he])
    have hnot : table.id ∉ tables.map Table.id := fun hin => h (List.mem_cons_of_mem _ hin)
    rw [putTable, if_neg hne, ih hnot, List.cons_append]

theorem foldl_putTable_of_nodup (added tables : List Table)
    (h : ((tables ++ added).map Table.id).Nodup) :
    added.foldl (fun tables table => putTable table tables) tables = tables ++ added := by
  induction added generalizing tables with
  | nil => rw [List.foldl_nil, List.append_nil]
  | cons table added ih =>
    have happend : tables ++ table :: added = tables ++ [table] ++ added := by simp
    have hnot : table.id ∉ tables.map Table.id := by
      intro hin
      rw [List.map_append, List.nodup_append] at h
      exact h.2.2 table.id hin table.id List.mem_cons_self rfl
    rw [happend] at h ⊢
    rw [List.foldl_cons, putTable_of_notMem hnot, ih _ h]

theorem finds_tables (script : List Definition) :
    Finds tableTexts (placed 0 script)
      (createTable.findAll (scriptText script).toList) :=
  exists_finds_keyed agrees_createTable (by decide) (by decide) fun definition _ =>
    recognises_createTable definition

theorem finds_indexes (h : ScriptFits script) :
    Finds indexTexts (placed 0 script)
      (createIndex.findAll (scriptText script).toList) :=
  exists_finds_keyed agrees_createIndex (by decide) (by decide) fun definition hd =>
    recognises_createIndex (indexNamed_of_fits (h.definitions definition hd))

theorem finds_foreignKeys (script : List Definition) :
    Finds keyTexts (placed 0 script)
      (addForeignKey.findAll (scriptText script).toList) :=
  exists_finds_keyed agrees_addForeignKey (by decide) (by decide) fun definition _ =>
    recognises_addForeignKey definition

theorem finds_enumerations (script : List Definition) :
    Finds enumTexts (placed 0 script)
      (createEnum.findAll (scriptText script).toList) :=
  exists_finds_keyed agrees_createEnum (by decide) (by decide) fun definition _ =>
    recognises_createEnum definition

theorem progress_eq (h : ScriptFits script) :
    (Statements.ofText (scriptText script).toList).progress =
      { tables := (schemaOf script).tables
        relationships := (schemaOf script).relationships
        diagnostics := redefinitions [] (placed 0 script) } := by
  obtain ⟨hnodup, hmem⟩ := ids_foldl_putTable (script.filterMap Definition.table?) []
    List.nodup_nil
  have hknown (id : String) :
      id ∈ ([] : List String) ↔ id ∈ ({} : Progress).tables.map Table.id := Iff.rfl
  -- Tables first, then the indexes of tables that are all there, and then the keys.
  unfold Statements.progress Statements.ofText
  rw [foldl_addTable h.definitions (finds_tables script) {} hknown,
    foldl_addIndex h.definitions (finds_indexes h) _ hnodup ?_,
    foldl_addForeignKey h.definitions (finds_foreignKeys script)]
  · rfl
  · intro definition hd id hid
    exact (hmem id).2 (.inr (h.owners definition hd id hid))

theorem allCovered (h : ScriptFits script) :
    AllCovered (Statements.ofText (scriptText script).toList).spans (placed 0 script) := by
  intro ⟨offset, definition⟩ hp
  have hspan {found : List Match} (hin : ∀ m ∈ found,
      (m.start, m.stop) ∈ (Statements.ofText (scriptText script).toList).spans)
      {texts? : Definition → Option (List (String × List Char))} {texts : List (String × List Char)}
      (k : Finds texts? (placed 0 script) found) (ht : texts? definition = some texts) :
      isCovered (Statements.ofText (scriptText script).toList).spans offset := by
    obtain ⟨m, hm, hcovers⟩ := k.exists_mem hp ht
    exact hcovers.isCovered (hin m hm)
  have hmap {m : Match} {statements : Statements}
      (hm : m ∈ statements.tables ∨ m ∈ statements.indexes ∨ m ∈ statements.foreignKeys ∨
        m ∈ statements.enumerations) : (m.start, m.stop) ∈ statements.spans := by
    refine List.mem_map.2 ⟨m, ?_, rfl⟩
    simpa only [List.mem_append, or_assoc] using hm
  cases definition with
  | table id clauses =>
    exact hspan (fun m hm => hmap (.inl hm)) (finds_tables script) rfl
  | index unique name owner columns =>
    exact hspan (fun m hm => hmap (.inr (.inl hm))) (finds_indexes h) rfl
  | foreignKey owner pairs target =>
    exact hspan (fun m hm => hmap (.inr (.inr (.inl hm)))) (finds_foreignKeys script) rfl
  | enumeration id values =>
    exact hspan (fun m hm => hmap (.inr (.inr (.inr hm)))) (finds_enumerations script) rfl

theorem read_eq (h : ScriptFits script) :
    read (scriptText script) = ⟨schemaOf script, redefinitions [] (placed 0 script)⟩ := by
  have henum := enumerations_eq (finds_enumerations script)
  have hsort : sortDiagnostics (redefinitions [] (placed 0 script)) =
      redefinitions [] (placed 0 script) :=
    List.mergeSort_of_pairwise (pairwise_redefinitions script [] 0)
  unfold read readStripped
  rw [strip_scriptText]
  simp only [progress_eq h, reportUnrecognised_eq_nil (allCovered h), List.append_nil, hsort]
  congr 1
  exact congrArg (Schema.mk _ _) henum

/-- A script of the core grammar is read as the schema that it defines. The only reports are of
tables that are defined again: there are none, and no table is lost, if the ids are distinct. -/
theorem read_scriptText (h : ScriptFits script) :
    read (scriptText script) = ⟨schemaOf script, redefinitions [] (placed 0 script)⟩ ∧
      ((tableIds script).Nodup →
        (schemaOf script).tables = withIndexes script (script.filterMap Definition.table?) ∧
          (read (scriptText script)).diagnostics = []) := by
  refine ⟨read_eq h, fun hnodup => ⟨?_, ?_⟩⟩
  · have htables : tablesOf script = script.filterMap Definition.table? :=
      foldl_putTable_of_nodup (script.filterMap Definition.table?) [] hnodup
    rw [← htables]
    rfl
  · rw [read_eq h]
    exact redefinitions_eq_nil hnodup (by simp)

def orderId : Word :=
  ⟨"id".toList, by decide, List.all_eq_true.1 (by decide)⟩

def orderNext : Word :=
  ⟨"next".toList, by decide, List.all_eq_true.1 (by decide)⟩

def orderKey : Word :=
  ⟨"by_next".toList, by decide, List.all_eq_true.1 (by decide)⟩

def orderTable : Id :=
  ⟨some ⟨"shop".toList, by decide, List.all_eq_true.1 (by decide)⟩,
    ⟨"order".toList, by decide, List.all_eq_true.1 (by decide)⟩⟩

def orderState : Word :=
  ⟨"state".toList, by decide, List.all_eq_true.1 (by decide)⟩

def orderDecimal : TypeName :=
  ⟨⟨"DECIMAL".toList, by decide, List.all_eq_true.1 (by decide)⟩,
    [⟨"8".toList, by decide, List.all_eq_true.1 (by decide)⟩,
      ⟨"2".toList, by decide, List.all_eq_true.1 (by decide)⟩]⟩

def orderDefinitions : List Definition :=
  [.index true orderKey orderTable [orderNext],
    .foreignKey orderTable [(orderNext, orderId)] orderTable,
    .enumeration ⟨none, orderState⟩ [orderKey, orderState],
    .table orderTable
      [.column ⟨orderId, ⟨⟨"serial".toList, by decide, List.all_eq_true.1 (by decide)⟩, []⟩, []⟩,
        .primaryKey [orderId],
        .column ⟨orderNext, orderDecimal, [.unique, .notNull]⟩,
        .foreignKey [(orderNext, orderId), (orderId, orderNext)] ⟨none, orderState⟩,
        .unique [orderNext, orderId]],
    .table ⟨none, orderState⟩ [.column ⟨orderId, orderDecimal, [.primaryKey]⟩]]

theorem scriptFits_orderDefinitions : ScriptFits orderDefinitions where
  definitions definition hd := by
    simp only [orderDefinitions, List.mem_cons, List.not_mem_nil, or_false] at hd
    rcases hd with rfl | rfl | rfl | rfl | rfl
    · exact ⟨by decide, List.cons_ne_nil _ _⟩
    · exact List.cons_ne_nil _ _
    · trivial
    · refine ⟨⟨⟨by decide, by decide, by decide⟩, ⟨List.cons_ne_nil _ _, ?_⟩,
        ⟨by decide, by decide, by decide⟩, List.cons_ne_nil _ _, List.cons_ne_nil _ _, trivial⟩,
        List.cons_ne_nil _ _⟩
      intro column hc
      obtain rfl := List.mem_singleton.1 hc
      exact List.mem_singleton_self _
    · exact ⟨⟨⟨by decide, by decide, by decide⟩, trivial⟩, List.cons_ne_nil _ _⟩
  owners := by decide

theorem read_orderDefinitions :
    ScriptFits orderDefinitions ∧ (tableIds orderDefinitions).Nodup ∧
      read (scriptText orderDefinitions) = ⟨schemaOf orderDefinitions, []⟩ := by
  obtain ⟨hread, hdistinct⟩ := read_scriptText scriptFits_orderDefinitions
  have hnodup : (tableIds orderDefinitions).Nodup := by decide
  have hnil := (hdistinct hnodup).2
  rw [hread] at hnil
  exact ⟨scriptFits_orderDefinitions, hnodup, hread.trans (congrArg (Reading.mk _) hnil)⟩

end Reading

end SchemaText.Sql.Core
