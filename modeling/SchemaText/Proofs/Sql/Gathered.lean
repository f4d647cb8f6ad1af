import SchemaText.Proofs.Sql.Extracted
import SchemaText.Proofs.Sql.TableRead
/-! What the definitions of a script add up to, kind by kind. -/

namespace SchemaText.Sql.Core

open Pattern
open Diagram (isPlain)
open Text (Stops stops_nil stops_cons)

def Definition.Fits : Definition → Prop
  | .table _ clauses => TableFits clauses
  | .index _ name _ columns => spells "CONCURRENTLY" name.chars = false ∧ columns ≠ []
  | .foreignKey _ pairs _ => pairs ≠ []
  | .enumeration _ _ => True

def tableIds (script : List Definition) : List String :=
  (script.filterMap Definition.table?).map Table.id

section Tables

/-- The reports of tables that are defined again, where the ids of `known` are defined before. -/
def redefinitions : List String → List (Nat × Definition) → List Diagnostic
  | _, [] => []
  | known, (offset, definition) :: script =>
    match definition.table? with
    | none => redefinitions known script
    | some table =>
      (if table.id ∈ known then [(Fault.tableReplaced table.id).diagnostic offset] else []) ++
        redefinitions (table.id :: known) script

theorem addTable_eq {progress : Progress} {id : Id} {clauses : List TableClause} {offset : Nat}
    {texts : List (String × List Char)} {m : Match}
    (ht : tableTexts (.table id clauses) = some texts)
    (hm : Covers offset (.table id clauses) texts m)
    (h : TableFits clauses) :
    progress.addTable m =
      { tables := putTable (tableOf id clauses) progress.tables
        relationships := progress.relationships ++ clauses.flatMap (TableClause.relationships id)
        diagnostics := progress.diagnostics ++
          if id.text ∈ progress.tables.map Table.id then
            [(Fault.tableReplaced id.text).diagnostic offset]
          else [] } := by
  have hdraft := draftOf_eq (m := m) (by rw [hm.texts, ht]) h
  have hcolumns : (tableOf id clauses).columns.isEmpty = false := by
    simpa [tableOf] using h.column_ne
  have hid : (tableOf id clauses).id = id.text := rfl
  have hknown : progress.tables.any (fun table => table.id == id.text) =
      decide (id.text ∈ progress.tables.map Table.id) := by
    rw [Bool.eq_iff_iff, List.any_eq_true, decide_eq_true_eq, List.mem_map]
    simp only [beq_iff_eq]
  unfold Progress.addTable
  simp only [hdraft, draftOf, hcolumns, hid, Progress.report, hm.start, hknown]
  simp

theorem foldl_addTable {script : List Definition} (h : ∀ definition ∈ script, definition.Fits)
    {offset : Nat} {found : List Match} (k : Finds tableTexts (placed offset script) found)
    (progress : Progress) {known : List String}
    (hk : ∀ id, id ∈ known ↔ id ∈ progress.tables.map Table.id) :
    found.foldl Progress.addTable progress =
      { tables := (script.filterMap Definition.table?).foldl
          (fun tables table => putTable table tables) progress.tables
        relationships := progress.relationships ++ script.flatMap Definition.bodyRelationships
        diagnostics := progress.diagnostics ++ redefinitions known (placed offset script) } := by
  -- `known` has the ids of the tables so far, in an order of its own.
  induction script generalizing offset found progress known with
  | nil =>
    cases k
    simp [placed, redefinitions]
  | cons definition script ih =>
    have hrest := fun d hd => h d (List.mem_cons_of_mem _ hd)
    cases k with
    | skip ht k =>
      rw [ih hrest k progress hk]
      cases definition with
      | table id clauses => cases ht
      | _ => rfl
    | found ht hm k =>
      cases definition with
      | table id clauses =>
        have hfits : TableFits clauses := h _ List.mem_cons_self
        have hids (other : String) : other ∈ id.text :: known ↔
            other ∈ (putTable (tableOf id clauses) progress.tables).map Table.id := by
          have hid : (tableOf id clauses).id = id.text := rfl
          rw [ids_putTable, List.mem_cons, hk, hid]
          split
          · next hin =>
            refine ⟨fun ho => ho.elim (fun he => he ▸ hin) (fun he => he), .inr⟩
          · rw [List.mem_append, List.mem_singleton, or_comm]
        rw [List.foldl_cons, addTable_eq ht hm hfits, ih hrest k _ hids]
        have hreports : redefinitions known (placed offset (.table id clauses :: script)) =
            (if id.text ∈ known then [(Fault.tableReplaced id.text).diagnostic offset] else []) ++
              redefinitions (id.text :: known)
                (placed (offset + (Definition.table id clauses).chars.length + 1) script) := rfl
        simp only [hreports, hk, List.append_assoc]
        rfl
      | _ => cases ht

end Tables

section Indexes

/-- The tables with the indexes of a script added to theirs. -/
def withIndexes (script : List Definition) (tables : List Table) : List Table :=
  tables.map fun table =>
    { table with indexes := table.indexes ++ script.filterMap (Definition.indexOn? table.id) }

theorem withIndexes_nil (tables : List Table) : withIndexes [] tables = tables := by
  simp [withIndexes]

theorem ids_withIndexes (script : List Definition) (tables : List Table) :
    (withIndexes script tables).map Table.id = tables.map Table.id := by
  rw [withIndexes, List.map_map]
  rfl

theorem withIndexes_cons (definition : Definition) (script : List Definition)
    (tables : List Table) :
    withIndexes (definition :: script) tables =
      withIndexes script (withIndexes [definition] tables) := by
  unfold withIndexes
  rw [List.map_map]
  refine List.map_congr_left fun table _ => ?_
  have hcons : (definition :: script).filterMap (Definition.indexOn? table.id) =
      [definition].filterMap (Definition.indexOn? table.id) ++
        script.filterMap (Definition.indexOn? table.id) := by
    rw [← List.filterMap_append]
    rfl
  simp only [Function.comp_apply, hcons, List.append_assoc]

theorem addIndex_eq {progress : Progress} {unique : Bool} {name : Word} {owner : Id}
    {columns : List Word} {offset : Nat} {texts : List (String × List Char)} {m : Match}
    (ht : indexTexts (.index unique name owner columns) = some texts)
    (hm : Covers offset (.index unique name owner columns) texts m) (hc : columns ≠ [])
    (hids : (progress.tables.map Table.id).Nodup)
    (howner : owner.text ∈ progress.tables.map Table.id) :
    progress.addIndex m =
      { progress with
        tables := withIndexes [.index unique name owner columns] progress.tables } := by
  have hx : textsOf m = _ := hm.texts.trans (Option.some.inj ht).symm
  have htable : m.text "table" = owner.chars := text_eq hx "table"
  have hcolumns : m.text "columns" = namesText columns := text_eq hx "columns"
  have hname : m.text? "name" = some name.chars := text?_eq hx "name"
  have hunique : (m.text? "unique").isSome = unique := by
    rw [text?_eq hx "unique"]
    cases unique <;> rfl
  have hclean : Draft.cleanName name.chars = name.text := by
    rw [Draft.cleanName, clean_word]
    rfl
  unfold Progress.addIndex
  rw [htable, cleanName_id, columnNames_eq hcolumns hc, hname, hunique, Option.map_some, hclean]
  simp only [addIndex?_eq _ hids howner]
  have hindexOn (table : Table) :
      [Definition.index unique name owner columns].filterMap (Definition.indexOn? table.id) =
        if table.id = owner.text then
          [{ columns := columns.map Word.text, unique := unique, name := some name.text }]
        else [] := by
    by_cases he : owner.text = table.id
    · simp [Definition.indexOn?, he]
    · simp [Definition.indexOn?, he, Ne.symm he]
  congr 1
  refine List.map_congr_left fun table _ => ?_
  rw [hindexOn]
  split
  · rfl
  · simp

def Definition.owner? : Definition → Option String
  | .index _ _ owner _ => some owner.text
  | _ => none

theorem foldl_addIndex {script : List Definition} (h : ∀ definition ∈ script, definition.Fits)
    {offset : Nat} {found : List Match} (k : Finds indexTexts (placed offset script) found)
    (progress : Progress) (hids : (progress.tables.map Table.id).Nodup)
    (howner : ∀ definition ∈ script, ∀ id ∈ definition.owner?,
      id ∈ progress.tables.map Table.id) :
    found.foldl Progress.addIndex progress =
      { progress with tables := withIndexes script progress.tables } := by
  -- Indexes leave the ids alone, so every owner stays where it was found.
  induction script generalizing offset found progress with
  | nil =>
    cases k
    rw [withIndexes_nil]
    rfl
  | cons definition script ih =>
    have hrest := fun d hd => h d (List.mem_cons_of_mem _ hd)
    have hothers := fun d hd => howner d (List.mem_cons_of_mem _ hd)
    rw [withIndexes_cons]
    cases k with
    | skip ht k =>
      have hnone : withIndexes [definition] progress.tables = progress.tables := by
        cases definition with
        | index unique name owner columns => cases ht
        | _ => exact withIndexes_nil progress.tables
      rw [ih hrest k progress hids hothers, hnone]
    | found ht hm k =>
      cases definition with
      | index unique name owner columns =>
        have hfits : spells "CONCURRENTLY" name.chars = false ∧ columns ≠ [] :=
          h _ List.mem_cons_self
        have hin := howner _ List.mem_cons_self owner.text rfl
        rw [List.foldl_cons, addIndex_eq ht hm hfits.2 hids hin]
        refine ih hrest k _ ?_ ?_
        · rwa [ids_withIndexes]
        · rwa [ids_withIndexes]
      | _ => cases ht

end Indexes

section ForeignKeys

theorem addForeignKey_eq {progress : Progress} {owner : Id} {pairs : List (Word × Word)}
    {target : Id} {offset : Nat} {texts : List (String × List Char)} {m : Match}
    (ht : keyTexts (.foreignKey owner pairs target) = some texts)
    (hm : Covers offset (.foreignKey owner pairs target) texts m) (h : pairs ≠ []) :
    progress.addForeignKey m =
      { progress with
        relationships := progress.relationships ++ relationshipsOf owner pairs target } := by
  have hx : textsOf m = _ := hm.texts.trans (Option.some.inj ht).symm
  have htable : m.text "table" = owner.chars := text_eq hx "table"
  have hcolumns : m.text "columns" = namesText (pairs.map Prod.fst) := text_eq hx "columns"
  have htarget : m.text "target" = target.chars := text_eq hx "target"
  have htargets : m.text "target_columns" = namesText (pairs.map Prod.snd) :=
    text_eq hx "target_columns"
  unfold Progress.addForeignKey
  simp only [htable, hcolumns, htarget, htargets, cleanName_id, foreignKeys_eq _ h, Progress.report,
    List.append_nil]
  rfl

theorem foldl_addForeignKey {script : List Definition} (h : ∀ definition ∈ script, definition.Fits)
    {offset : Nat} {found : List Match} (k : Finds keyTexts (placed offset script) found)
    (progress : Progress) :
    found.foldl Progress.addForeignKey progress =
      { progress with
        relationships := progress.relationships ++
          script.flatMap Definition.addedRelationships } := by
  induction script generalizing offset found progress with
  | nil =>
    cases k
    simp
  | cons definition script ih =>
    have hrest := fun d hd => h d (List.mem_cons_of_mem _ hd)
    cases k with
    | skip ht k =>
      rw [ih hrest k progress]
      cases definition with
      | foreignKey owner pairs target => cases ht
      | _ => rfl
    | found ht hm k =>
      cases definition with
      | foreignKey owner pairs target =>
        rw [List.foldl_cons, addForeignKey_eq ht hm (h _ List.mem_cons_self), ih hrest k,
          List.flatMap_cons, ← List.append_assoc]
        rfl
      | _ => cases ht

end ForeignKeys

section Enumerations

theorem findAll_valuesText (values : List Word) :
    Literal.findAll (valuesText values) = values.map Word.chars := by
  rw [valuesText_eq, Literal.findAll_listed]

theorem enumerations_eq {script : List Definition} {offset : Nat} {found : List Match}
    (k : Finds enumTexts (placed offset script) found) :
    found.map enumerationOf = script.filterMap Definition.enumeration? := by
  induction script generalizing offset found with
  | nil =>
    cases k
    rfl
  | cons definition script ih =>
    cases k with
    | skip ht k =>
      rw [ih k]
      cases definition with
      | enumeration id values => cases ht
      | _ => rfl
    | @found _ _ _ _ m _ ht hm k =>
      cases definition with
      | enumeration id values =>
        have hx : textsOf m = _ := hm.texts.trans (Option.some.inj ht).symm
        have hname : m.text "name" = id.chars := text_eq hx "name"
        have hvalues : m.text "values" = valuesText values := text_eq hx "values"
        have henum : enumerationOf m = { name := id.text, values := values.map Word.text } := by
          unfold enumerationOf
          rw [hname, hvalues, cleanName_id, findAll_valuesText, List.map_map]
          rfl
        rw [List.map_cons, henum, ih k]
        rfl
      | _ => cases ht

end Enumerations

end SchemaText.Sql.Core
