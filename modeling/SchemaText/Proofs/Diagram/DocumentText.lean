import SchemaText.Diagram.Document
import SchemaText.Proofs.Diagram.EnumerationText
import SchemaText.Proofs.Diagram.RelationshipText
import SchemaText.Proofs.Diagram.TableText
/-! Whole schemas, written and read back. -/

namespace SchemaText.Diagram

def joinSchemas (s t : Schema) : Schema where
  tables := s.tables ++ t.tables
  relationships := s.relationships ++ t.relationships
  enumerations := s.enumerations ++ t.enumerations

def joinAll (parts : List Schema) : Schema where
  tables := parts.flatMap Schema.tables
  relationships := parts.flatMap Schema.relationships
  enumerations := parts.flatMap Schema.enumerations

theorem joinAll_cons (part : Schema) (parts : List Schema) :
    joinAll (part :: parts) = joinSchemas part (joinAll parts) := rfl

theorem schema_readingOfSegments_append (xs ys : List Segment) :
    (readingOfSegments (xs ++ ys)).schema =
      joinSchemas (readingOfSegments xs).schema (readingOfSegments ys).schema := by
  simp [readingOfSegments, joinSchemas]

/-- Without a table before it, the segment reports nothing. -/
def Segment.Quiet (segment : Segment) : Prop :=
  segment.diagnostics [] = []

theorem Segment.diagnostics_of_quiet {segment : Segment} (h : segment.Quiet) {ids : List String}
    (k : ∀ table ∈ segment.table?, table.id ∉ ids) : segment.diagnostics ids = [] := by
  cases segment with
  | comment => rfl
  | stray offset => simp [Quiet, Segment.diagnostics] at h
  | table offset table list =>
    cases table with
    | none => exact h
    | some table =>
      have hid : table.id ∉ ids := k table rfl
      simpa [Quiet, Segment.diagnostics, hid] using h
  | relationship r list => exact h
  | enumeration e list => exact h

theorem allDiagnostics_of_quiet {segments : List Segment} (h : ∀ s ∈ segments, s.Quiet)
    {ids : List String}
    (k : (ids ++ (segments.filterMap Segment.table?).map Table.id).Nodup) :
    Segment.allDiagnostics ids segments = [] := by
  -- Induction on the segments; `ids` grows by the id of each table that is read.
  induction segments generalizing ids with
  | nil => rfl
  | cons segment segments ih =>
    have hs : ids ++ ((segment :: segments).filterMap Segment.table?).map Table.id =
        (ids ++ (segment.table?.map Table.id).toList) ++
          (segments.filterMap Segment.table?).map Table.id := by
      cases ht : segment.table? <;> simp [ht]
    rw [hs] at k
    have hown : ∀ table ∈ segment.table?, table.id ∉ ids := by
      intro table ht hid
      have hn := (List.nodup_append.1 (List.nodup_append.1 k).1).2.2
      exact hn _ hid _ (by simp [Option.mem_def.1 ht]) rfl
    rw [Segment.allDiagnostics, Segment.diagnostics_of_quiet (h segment (by simp)) hown,
      ih (fun s hm => h s (by simp [hm])) k, List.append_nil]

namespace Cursor

theorem segments_blank (n : Nat) {ch : Char} (h : Text.isBlank ch) (rest : List Char)
    (inStray : Bool) :
    (place n (ch :: rest)).segments inStray = (place (n + 1) rest).segments inStray := by
  rw [segments, skipBlank_place_cons n h rest]
  conv =>
    rhs
    rw [segments]

theorem definition?_place (n : Nat) {word : String} {rest : List Char} {definition : Definition}
    (h : word.toList.all Char.isAlpha) (k : Stops Char.isAlpha rest)
    (d : Definition.ofKeyword? word = some definition) :
    (place n (word.toList ++ rest)).definition? = some definition := by
  rw [definition?, keyword_place n h k, d]

theorem segments_of_definition (n : Nat) {rest : List Char} {definition : Definition}
    (h : Stops Text.isBlank rest) (k : (place n rest).definition? = some definition)
    (inStray : Bool) :
    (place n rest).segments inStray =
      ((place n rest).readDefinition definition).1 ::
        ((place n rest).readDefinition definition).2.segments false := by
  have he : (place n rest).atEnd = false := by
    cases rest with
    | nil => simp [definition?, keyword, Definition.ofKeyword?] at k
    | cons => rfl
  rw [segments, skipBlank_place_of_stops n h, dif_neg (by simp [he])]
  split
  · next d hd =>
    rw [k] at hd
    cases hd
    rfl
  · next hd =>
    rw [k] at hd
    cases hd

end Cursor

open Cursor

def ReadsAs (text : List Char) (part : Schema) : Prop :=
  ∀ n rest, EndsName rest → ∃ segments,
    (place n (text ++ rest)).segments false =
      segments ++ (place (n + text.length) rest).segments false ∧
    (readingOfSegments segments).schema = part ∧ ∀ s ∈ segments, s.Quiet

theorem readsAs_nil : ReadsAs [] {} := by
  intro n rest _
  exact ⟨[], rfl, rfl, by simp⟩

theorem ReadsAs.blank {text : List Char} {part : Schema} (h : ReadsAs text part) {ch : Char}
    (k : Text.isBlank ch) : ReadsAs (ch :: text) part := by
  intro n rest e
  obtain ⟨segments, hs, hp, hq⟩ := h (n + 1) rest e
  refine ⟨segments, ?_, hp, hq⟩
  rw [List.cons_append, segments_blank n k, hs, List.length_cons, Nat.add_assoc, Nat.add_comm 1]

theorem ReadsAs.append {xs ys : List Char} {s t : Schema} (h : ReadsAs xs s) (k : ReadsAs ys t)
    (e : EndsName ys) : ReadsAs (xs ++ ys) (joinSchemas s t) := by
  intro n rest er
  -- The first text needs a blank or an end behind it, and finds it in the second one or in the
  -- rest.
  have ey : EndsName (ys ++ rest) := by
    cases ys with
    | nil => exact er
    | cons ch ys => exact endsName_cons.2 (endsName_cons.1 e)
  obtain ⟨first, hf, hfs, hfq⟩ := h n (ys ++ rest) ey
  obtain ⟨second, hs, hss, hsq⟩ := k (n + xs.length) rest er
  refine ⟨first ++ second, ?_, ?_, ?_⟩
  · rw [List.append_assoc, hf, hs, List.append_assoc, List.length_append, Nat.add_assoc]
  · rw [schema_readingOfSegments_append, hfs, hss]
  · intro segment hm
    rcases List.mem_append.1 hm with hm | hm
    · exact hfq segment hm
    · exact hsq segment hm

theorem readsAs_of_definition {text more : List Char} {word : String} {ch : Char}
    {definition : Definition} {segment : Nat → Segment} {part : Schema}
    (hw : text = word.toList ++ ch :: more) (ha : word.toList.all Char.isAlpha)
    (hc : ch.isAlpha = false) (hd : Definition.ofKeyword? word = some definition)
    (hb : Stops Text.isBlank text)
    (hr : ∀ n rest, EndsName rest → (place n (text ++ rest)).readDefinition definition =
      (segment n, place (n + text.length) rest))
    (hp : ∀ n, (readingOfSegments [segment n]).schema = part) (hq : ∀ n, (segment n).Quiet) :
    ReadsAs text part := by
  intro n rest e
  have hk : (place n (text ++ rest)).definition? = some definition := by
    rw [hw, List.append_assoc, List.cons_append]
    exact definition?_place n ha (stops_cons.2 hc) hd
  have hs : Stops Text.isBlank (text ++ rest) := by
    cases text with
    | nil => simp at hw
    | cons first text => exact stops_cons.2 (stops_cons.1 hb)
  refine ⟨[segment n], ?_, hp n, by simpa using hq n⟩
  rw [segments_of_definition n hs hk false, hr n rest e, List.singleton_append]

theorem readsAs_renderTableWith {table : Table} (h : ExpressibleTable table)
    {remarks : TableRemarks} (k : remarks.AllHarmless) :
    ReadsAs (renderTableWith remarks table).toList { tables := [table] } := by
  have hw : (renderTableWith remarks table).toList = "Table".toList ++
      ' ' :: (renderQualifiedNameChars table.qualifiedName.toList ++
        (" \x7b\n".toList ++ writtenBody remarks table)) := toList_renderTableWith remarks table
  have hr (n : Nat) (rest : List Char) (_ : EndsName rest) :
      (place n ((renderTableWith remarks table).toList ++ rest)).readDefinition .table =
        (.table n (some table) [],
          place (n + (renderTableWith remarks table).toList.length) rest) := by
    rw [readDefinition, readTable_place n h k]
    rfl
  have hb : Stops Text.isBlank (renderTableWith remarks table).toList := by
    rw [hw]
    exact stops_cons.2 (by decide)
  exact readsAs_of_definition hw (by decide) (by decide) rfl hb hr (fun _ => rfl)
    fun _ => by simp [Segment.Quiet, Segment.diagnostics]

theorem readsAs_renderEnumerationWith {enumeration : Enumeration}
    (h : ExpressibleEnumeration enumeration) {remark : Nat → Option String}
    (k : ∀ i, Harmless (remark i)) :
    ReadsAs (renderEnumerationWith remark enumeration).toList
      { enumerations := [enumeration] } := by
  have hw : (renderEnumerationWith remark enumeration).toList = "Enum".toList ++
      ' ' :: (renderQualifiedNameChars enumeration.name.toList ++
        (" \x7b\n".toList ++ (writtenValues (withRemarks remark enumeration.values) ++ ['}']))) :=
    toList_renderEnumerationWith remark enumeration
  have hr (n : Nat) (rest : List Char) (_ : EndsName rest) :
      (place n ((renderEnumerationWith remark enumeration).toList ++ rest)).readDefinition
          .enumeration =
        (.enumeration enumeration [],
          place (n + (renderEnumerationWith remark enumeration).toList.length) rest) := by
    rw [readDefinition, readEnumeration_place h k]
  have hb : Stops Text.isBlank (renderEnumerationWith remark enumeration).toList := by
    rw [hw]
    exact stops_cons.2 (by decide)
  exact readsAs_of_definition hw (by decide) (by decide) rfl hb hr (fun _ => rfl) fun _ => rfl

def writtenRelationship (keep : Bool) (r : Relationship) : Relationship :=
  { r with cardinality := writtenCardinality keep r }

theorem readsAs_renderRelationship (keep : Bool) {r : Relationship}
    (h : ExpressibleRelationship r) :
    ReadsAs (renderRelationship keep r).toList
      { relationships := [writtenRelationship keep r] } := by
  have hw := toList_renderRelationship keep r
  have hr (n : Nat) (rest : List Char) (e : EndsName rest) :
      (place n ((renderRelationship keep r).toList ++ rest)).readDefinition .relationship =
        (.relationship (some (writtenRelationship keep r)) [],
          place (n + (renderRelationship keep r).toList.length) rest) := by
    rw [readDefinition, readRelationship_place keep n h e]
    rfl
  have hb : Stops Text.isBlank (renderRelationship keep r).toList := by
    rw [hw]
    exact stops_cons.2 (by decide)
  have hw : (renderRelationship keep r).toList = "Ref".toList ++ ':' :: ' ' ::
      (renderQualifiedNameChars (endpointName r.fromTable r.fromColumn) ++
        ' ' :: ((operator (writtenCardinality keep r)).toList ++
          ' ' :: renderQualifiedNameChars (endpointName r.toTable r.toColumn))) := hw
  exact readsAs_of_definition hw (by decide) (by decide) rfl hb hr (fun _ => rfl) fun _ => rfl

theorem ReadsAs.blanks {text : List Char} {part : Schema} (h : ReadsAs text part)
    {sep : List Char} (k : ∀ ch ∈ sep, Text.isBlank ch) : ReadsAs (sep ++ text) part := by
  induction sep with
  | nil => exact h
  | cons ch sep ih => exact (ih fun c hc => k c (by simp [hc])).blank (k ch (by simp))

theorem readsAs_flatMap {sep : List Char} (hs : ∀ ch ∈ sep, Text.isBlank ch) (hne : sep ≠ [])
    {blocks : List (List Char × Schema)} (h : ∀ block ∈ blocks, ReadsAs block.1 block.2) :
    ReadsAs (blocks.flatMap fun block => sep ++ block.1) (joinAll (blocks.map Prod.snd)) ∧
      EndsName (blocks.flatMap fun block => sep ++ block.1) := by
  obtain ⟨ch, sep', rfl⟩ := List.exists_cons_of_ne_nil hne
  induction blocks with
  | nil => exact ⟨readsAs_nil, endsName_nil⟩
  | cons block blocks ih =>
    obtain ⟨hr, he⟩ := ih fun b hb => h b (by simp [hb])
    rw [List.flatMap_cons, List.map_cons, joinAll_cons]
    exact ⟨((h block (by simp)).blanks hs).append hr he, endsName_cons.2 (hs ch (by simp))⟩

theorem readsAs_intercalate {sep : List Char} (hs : ∀ ch ∈ sep, Text.isBlank ch)
    (hne : sep ≠ []) {blocks : List (List Char × Schema)}
    (h : ∀ block ∈ blocks, ReadsAs block.1 block.2) :
    ReadsAs (sep.intercalate (blocks.map Prod.fst)) (joinAll (blocks.map Prod.snd)) := by
  cases blocks with
  | nil => exact readsAs_nil
  | cons block blocks =>
    have hrest : ∀ b ∈ blocks, ReadsAs b.1 b.2 := fun b hb => h b (by simp [hb])
    obtain ⟨hr, he⟩ := readsAs_flatMap hs hne hrest
    rw [List.map_cons, List.map_cons, Text.intercalate_cons, List.flatMap_map, joinAll_cons]
    exact (h block (by simp)).append hr he

def writtenSchema (keep : Bool) (schema : Schema) : Schema :=
  { schema with relationships := schema.relationships.map (writtenRelationship keep) }

theorem writtenSchema_true (schema : Schema) : writtenSchema true schema = schema := by
  have h : writtenRelationship true = id := rfl
  simp [writtenSchema, h]

def writtenLine (keep : Bool) (r : Relationship) : List Char × Schema :=
  ((renderRelationship keep r).toList, { relationships := [writtenRelationship keep r] })

theorem joinAll_writtenLine (keep : Bool) (relationships : List Relationship) :
    joinAll ((relationships.map (writtenLine keep)).map Prod.snd) =
      { relationships := relationships.map (writtenRelationship keep) } := by
  induction relationships with
  | nil => rfl
  | cons r relationships ih => rw [List.map_cons, List.map_cons, joinAll_cons, ih]; rfl

theorem readsAs_relationships (keep : Bool) {relationships : List Relationship}
    (h : ∀ r ∈ relationships, ExpressibleRelationship r) :
    ReadsAs (['\n'].intercalate (relationships.map fun r => (renderRelationship keep r).toList))
      { relationships := relationships.map (writtenRelationship keep) } := by
  have hs : ∀ ch ∈ ['\n'], Text.isBlank ch := List.forall_mem_singleton.2 (by decide)
  have hr : ∀ line ∈ relationships.map (writtenLine keep), ReadsAs line.1 line.2 := by
    intro line hl
    obtain ⟨r, hr, rfl⟩ := List.mem_map.1 hl
    simp only [writtenLine]
    exact readsAs_renderRelationship keep (h r hr)
  have hj := readsAs_intercalate hs (by simp) hr
  have hf : Prod.fst ∘ writtenLine keep = fun r => (renderRelationship keep r).toList := by
    funext r
    simp only [Function.comp_apply, writtenLine]
  rwa [joinAll_writtenLine, List.map_map, hf] at hj

def writtenBlocks (remarks : Remarks) (keep : Bool) (schema : Schema) : List (List Char × Schema) :=
  (schema.tables.zipIdx.map fun entry =>
    ((renderTableWith (remarks.table entry.2) entry.1).toList, { tables := [entry.1] })) ++
  (schema.enumerations.zipIdx.map fun entry =>
    ((renderEnumerationWith (remarks.value entry.2) entry.1).toList,
      { enumerations := [entry.1] })) ++
  if schema.relationships = [] then []
  else
    [(['\n'].intercalate (schema.relationships.map fun r => (renderRelationship keep r).toList),
      { relationships := schema.relationships.map (writtenRelationship keep) })]

theorem toList_renderWith (remarks : Remarks) (keep : Bool) (schema : Schema) :
    (renderWith remarks keep schema).toList =
      if writtenBlocks remarks keep schema = [] then []
      else
        ['\n', '\n'].intercalate ((writtenBlocks remarks keep schema).map Prod.fst) ++ ['\n'] := by
  have hm : (renderBlocksWith remarks keep schema).map String.toList =
      (writtenBlocks remarks keep schema).map Prod.fst := by
    cases hr : schema.relationships <;>
      simp [renderBlocksWith, writtenBlocks, hr, joinLines, String.toList_intercalate,
        Function.comp_def]
  have he : renderBlocksWith remarks keep schema = [] ↔ writtenBlocks remarks keep schema = [] := by
    rw [← List.map_eq_nil_iff, hm, List.map_eq_nil_iff]
  by_cases h : renderBlocksWith remarks keep schema = []
  · simp [renderWith, h, he.1 h]
  · simp [renderWith, h, mt he.2 h, String.toList_intercalate, hm]

theorem readsAs_writtenBlocks (keep : Bool) {schema : Schema} (h : Expressible schema)
    {remarks : Remarks} (k : remarks.AllHarmless) :
    ∀ block ∈ writtenBlocks remarks keep schema, ReadsAs block.1 block.2 := by
  intro block hb
  rcases List.mem_append.1 hb with hb | hb
  · rcases List.mem_append.1 hb with hb | hb
    · obtain ⟨entry, he, rfl⟩ := List.mem_map.1 hb
      exact readsAs_renderTableWith (h.tables entry.1 (List.fst_mem_of_mem_zipIdx he))
        (k.table entry.2)
    · obtain ⟨entry, he, rfl⟩ := List.mem_map.1 hb
      exact readsAs_renderEnumerationWith
        (h.enumerations entry.1 (List.fst_mem_of_mem_zipIdx he)) (k.value entry.2)
  · split at hb
    · simp at hb
    · rw [List.mem_singleton] at hb
      subst hb
      exact readsAs_relationships keep h.relationships

theorem flatMap_zipIdx {α β : Type} (entries : List α) (f : α → List β) :
    entries.zipIdx.flatMap (fun entry => f entry.1) = entries.flatMap f := by
  conv => rhs; rw [← List.zipIdx_map_fst 0 entries, List.flatMap_map]

theorem joinAll_writtenBlocks (remarks : Remarks) (keep : Bool) (schema : Schema) :
    joinAll ((writtenBlocks remarks keep schema).map Prod.snd) = writtenSchema keep schema := by
  have ht := flatMap_zipIdx schema.tables fun table => [table]
  have he := flatMap_zipIdx schema.enumerations fun enumeration => [enumeration]
  cases hr : schema.relationships <;>
    simp [joinAll, writtenBlocks, writtenSchema, hr, List.flatMap_map, ht, he,
      List.flatMap_eq_nil_iff.2 fun _ _ => rfl]

theorem segments_nil (n : Nat) : (place n []).segments false = [] := by
  rw [segments, skipBlank_place_of_stops n (stops_nil _)]
  rfl

theorem exists_segments_renderWith (keep : Bool) {schema : Schema} (h : Expressible schema)
    {remarks : Remarks} (k : remarks.AllHarmless) :
    ∃ segments, read (renderWith remarks keep schema) = readingOfSegments segments ∧
      (readingOfSegments segments).schema = writtenSchema keep schema ∧
        ∀ s ∈ segments, s.Quiet := by
  have hstart (text : List Char) : ofPosition text 0 = place 0 text := by
    simp [ofPosition, place]
  have hjoin := joinAll_writtenBlocks remarks keep schema
  rw [read, hstart, toList_renderWith]
  -- An empty schema is an empty text, without even a line end.
  split
  · next hn =>
    rw [hn] at hjoin
    exact ⟨[], by rw [segments_nil], hjoin, by simp⟩
  · have hsep : ∀ ch ∈ ['\n', '\n'], Text.isBlank ch :=
      List.all_eq_true.1 (by decide : ['\n', '\n'].all Text.isBlank)
    have hend : EndsName ['\n'] := endsName_cons.2 (by decide)
    obtain ⟨segments, hs, hp, hq⟩ :=
      readsAs_intercalate hsep (by simp) (readsAs_writtenBlocks keep h k) 0 ['\n'] hend
    have hlast (n : Nat) : (place n ['\n']).segments false = [] := by
      rw [segments_blank n (by decide), segments_nil]
    rw [hlast, List.append_nil] at hs
    exact ⟨segments, by rw [hs], by rw [hp, hjoin], hq⟩

end SchemaText.Diagram
