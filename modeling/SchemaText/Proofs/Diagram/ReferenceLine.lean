import Mathlib.Data.List.Infix
import SchemaText.Proofs.Diagram.RoundTrip
import SchemaText.Proofs.Diagram.Within
/-! Lines that start a relationship, whether or not they hold one, and the definition on the lines
after them. -/

namespace SchemaText.Diagram

namespace Cursor

/-- The tables that are read from `text`, wherever it starts. -/
def Gives (text : List Char) (tables : List Table) : Prop :=
  ∀ n inStray, ((place n text).segments inStray).filterMap Segment.table? = tables

section Scan

variable {text more line : List Char} {tables : List Table} {ch : Char}

theorem skipLine_place (n : Nat) (h : '\n' ∉ line) (more : List Char) :
    (place n (line ++ '\n' :: more)).skipLine = place (n + line.length + 1) more := by
  have hline : ∀ ch ∈ line, decide (ch ≠ '\n') := by
    intro ch hc
    simpa using fun he : ch = '\n' => h (he ▸ hc)
  exact eat_skipWhile_place n hline (by decide) more

theorem Gives.blank (h : Gives text tables) (k : Text.isBlank ch) : Gives (ch :: text) tables := by
  intro n inStray
  rw [segments_blank n k]
  exact h (n + 1) inStray

theorem Gives.comment (h : Gives more tables) (k : ['/', '/'] <+: line) (hl : '\n' ∉ line) :
    Gives (line ++ '\n' :: more) tables := by
  intro n inStray
  obtain ⟨tail, rfl⟩ := k
  have hb : (place n (['/', '/'] ++ tail ++ '\n' :: more)).skipBlank =
      place n (['/', '/'] ++ tail ++ '\n' :: more) :=
    skipBlank_place_of_stops n (stops_cons.2 (by decide))
  have hd : (place n (['/', '/'] ++ tail ++ '\n' :: more)).definition? = none := rfl
  have hc : (place n (['/', '/'] ++ tail ++ '\n' :: more)).isComment := rfl
  rw [segments, hb, dif_neg (by simp)]
  split
  · next d hs =>
    rw [hd] at hs
    cases hs
  · rw [if_pos hc, skipLine_place n hl, List.filterMap_cons_none rfl]
    exact h _ false

theorem Gives.stray (h : Gives text tables) (hb : Text.isBlank ch = false)
    (hd : (place 0 (ch :: text)).definition? = none) (hc : ¬ ['/', '/'] <+: ch :: text) :
    Gives (ch :: text) tables := by
  intro n inStray
  have hs : (place n (ch :: text)).skipBlank = place n (ch :: text) :=
    skipBlank_place_of_stops n (stops_cons.2 hb)
  have hn : (place n (ch :: text)).definition? = none := hd
  have hcomment : ¬ (place n (ch :: text)).isComment := fun k => hc (List.isPrefixOf_iff_prefix.1 k)
  have hrest := h (n + 1) true
  rw [segments, hs, dif_neg (by simp)]
  split
  · next d he =>
    rw [hn] at he
    cases he
  · rw [if_neg hcomment, next_place_cons]
    cases inStray with
    | true => exact hrest
    | false => rwa [if_neg (by decide), List.filterMap_cons_none rfl]

theorem definition?_place_of_not_isAlpha (n : Nat) (h : ch.isAlpha = false) :
    (place n (ch :: text)).definition? = none := by
  simp [definition?, keyword, h, Definition.ofKeyword?]

theorem slashes_prefix_of_append (h : ['/', '/'] <+: line ++ '\n' :: more) :
    ['/', '/'] <+: line := by
  match line with
  | [] => simp [List.cons_prefix_cons] at h
  | [ch] => simp [List.cons_prefix_cons] at h
  | a :: b :: line => simpa [List.cons_prefix_cons] using h

theorem Gives.behind {start : List Char} (hline : '\n' ∉ start ++ line)
    (hd : ∀ part, part <:+ start → part ≠ [] →
      (place 0 (part ++ (line ++ '\n' :: more))).definition? = none)
    (h : Gives (line ++ '\n' :: more) tables) (hm : Gives more tables) :
    Gives (start ++ (line ++ '\n' :: more)) tables := by
  induction start with
  | nil => exact h
  | cons ch start ih =>
    have hi : Gives (start ++ (line ++ '\n' :: more)) tables :=
      ih (fun hn => hline (List.mem_cons_of_mem ch hn)) fun part hp =>
        hd part (hp.trans (List.suffix_cons ch start))
    by_cases hb : Text.isBlank ch
    · exact hi.blank hb
    · by_cases hc : ['/', '/'] <+: ch :: start ++ line
      · rw [← List.append_assoc]
        exact hm.comment hc hline
      · refine hi.stray (by simpa using hb) (hd _ List.suffix_rfl (by simp)) fun hk => hc ?_
        have hp : ['/', '/'] <+: (ch :: start ++ line) ++ '\n' :: more := by simpa using hk
        exact slashes_prefix_of_append hp

end Scan

section Line

def OnLine (line more : List Char) (c : Cursor) : Prop :=
  ∃ rest, rest <:+ line ∧ c.rest = rest ++ '\n' :: more

def NotBeyond (line more : List Char) (c : Cursor) : Prop :=
  OnLine line more c ∨ c.rest = more

variable {line more : List Char} {c : Cursor}

theorem OnLine.skipWhile {accepts : Char → Bool} (h : OnLine line more c)
    (k : accepts '\n' = false) : OnLine line more (c.skipWhile accepts) := by
  obtain ⟨rest, hr, hc⟩ := h
  refine ⟨rest.dropWhile accepts, (List.dropWhile_suffix _).trans hr, ?_⟩
  have hd : (c.skipWhile accepts).rest = c.rest.dropWhile accepts := rfl
  rw [hd, hc, List.dropWhile_append]
  split
  · next he => simp [List.isEmpty_iff.1 he, k]
  · rfl

theorem OnLine.next {ch : Char} (h : OnLine line more c) (k : c.peek = some ch) (hn : ch ≠ '\n') :
    OnLine line more c.next := by
  obtain ⟨rest, hr, hc⟩ := h
  cases rest with
  | nil =>
    simp only [peek, hc, List.nil_append, List.head?_cons, Option.some.injEq] at k
    exact absurd k.symm hn
  | cons first rest =>
    refine ⟨rest, (List.suffix_cons first rest).trans hr, ?_⟩
    simp [Cursor.next, hc]

theorem NotBeyond.skipBlank (h : NotBeyond line more c) (k : Stops Text.isBlank more) :
    NotBeyond line more c.skipBlank := by
  have hd : c.skipBlank.rest = c.rest.dropWhile Text.isBlank := rfl
  have hm : more.dropWhile Text.isBlank = more := by
    cases more with
    | nil => rfl
    | cons ch rest => simp [stops_cons.1 k]
  rcases h with ⟨rest, hr, hc⟩ | hc
  · by_cases hb : rest.dropWhile Text.isBlank = []
    · right
      rw [hd, hc, List.dropWhile_append, if_pos (by simp [hb]),
        List.dropWhile_cons_of_pos (by decide), hm]
    · left
      refine ⟨rest.dropWhile Text.isBlank, (List.dropWhile_suffix _).trans hr, ?_⟩
      rw [hd, hc, List.dropWhile_append, if_neg (by simpa using hb)]
  · right
    rw [hd, hc, hm]

theorem NotBeyond.skipOptional {mark : Char} (h : NotBeyond line more c)
    (k : Stops Text.isBlank more) (hm : more.head? ≠ some mark) (hn : mark ≠ '\n') :
    NotBeyond line more (c.skipOptional mark) := by
  have hb := h.skipBlank k
  unfold Cursor.skipOptional
  dsimp only
  split
  · next hp =>
    have hp : c.skipBlank.peek = some mark := by simpa using hp
    rcases hb with hl | he
    · exact NotBeyond.skipBlank (.inl (hl.next hp hn)) k
    · rw [peek, he] at hp
      exact absurd hp hm
  · exact hb

theorem OnLine.readOperator (h : OnLine line more c) : OnLine line more c.readOperator.2 := by
  have hone {ch : Char} {rest : List Char} (hr : c.rest = ch :: rest) (hn : ch ≠ '\n') :
      OnLine line more c.next := h.next (by simp [peek, hr]) hn
  have htwo {a b : Char} {rest : List Char} (hr : c.rest = a :: b :: rest) (ha : a ≠ '\n')
      (hb : b ≠ '\n') : OnLine line more c.next.next :=
    (hone hr ha).next (by simp [Cursor.next, peek, hr]) hb
  unfold Cursor.readOperator
  split
  · next hr => exact htwo hr (by decide) (by decide)
  · next hr => exact hone hr (by decide)
  · next hr => exact hone hr (by decide)
  · next hr => exact htwo hr (by decide) (by decide)
  · next hr => exact hone hr (by decide)
  · exact h

section Names

variable (hmarks : ∀ ch ∈ line, isMark ch = false)
include hmarks

theorem OnLine.mark?_eq_none (h : OnLine line more c) : c.mark? = none := by
  obtain ⟨rest, hr, hc⟩ := h
  cases rest with
  | nil => simp [mark?, peek, hc, isMark]
  | cons ch rest => simp [mark?, peek, hc, hmarks ch (hr.subset (by simp))]

theorem OnLine.readName_eq (h : OnLine line more c) : c.readName = c.takeWhile isBare := by
  rw [Cursor.readName, h.mark?_eq_none hmarks]

theorem OnLine.readName (h : OnLine line more c) : OnLine line more c.readName.2 := by
  rw [h.readName_eq hmarks]
  exact h.skipWhile (by decide)

theorem OnLine.readEndpoint (h : OnLine line more c) : OnLine line more c.readEndpoint.2 := by
  have hd : c.readName.2.peek ≠ some '.' := by
    rw [h.readName_eq hmarks]
    intro hp
    have hs := stops_skipWhile isBare c '.' hp
    exact absurd hs (by decide)
  have ht (dotted : Bool) : c.readName.2.readNameTail dotted = ([], c.readName.2) := by
    rw [readNameTail, dif_neg hd, dif_neg (by simp [(h.readName hmarks).mark?_eq_none hmarks])]
  simpa [Cursor.readEndpoint, readQualifiedName, ht] using h.readName hmarks

end Names

end Line

def OpensTable (text : List Char) : Prop :=
  ∃ rest, text = "Table".toList ++ ' ' :: rest

section Opened

variable {line more : List Char} (hmore : OpensTable more)
include hmore

theorem OpensTable.stops_isBlank : Stops Text.isBlank more := by
  obtain ⟨rest, rfl⟩ := hmore
  exact stops_cons.2 (by decide)

theorem OpensTable.head?_ne_colon : more.head? ≠ some ':' := by
  obtain ⟨rest, rfl⟩ := hmore
  simp

variable {c : Cursor} (h : c.rest = more)
include h

theorem OpensTable.readEndpoint_eq_none (ho : c.overrun = 0) : c.readEndpoint.1 = none := by
  obtain ⟨rest, rfl⟩ := hmore
  have hc : c = place c.offset (renderQualifiedNameChars "Table".toList ++ ' ' :: rest) := by
    obtain ⟨offset, text, overrun⟩ := c
    obtain rfl : overrun = 0 := ho
    obtain rfl : text = "Table".toList ++ ' ' :: rest := h
    rfl
  have hn : Endpoint.ofName? (String.ofList "Table".toList) = none := by decide +kernel
  rw [hc, readEndpoint, readQualifiedName_place _ (by decide) (endsName_cons.2 (by decide))]
  dsimp only
  exact hn

theorem OpensTable.readOperator_eq : c.readOperator = (.oneToMany, c) := by
  obtain ⟨rest, rfl⟩ := hmore
  unfold Cursor.readOperator
  rw [h]
  rfl

end Opened

section Relationship

variable {line more : List Char} {c : Cursor} (hmore : OpensTable more)
  (hmarks : ∀ ch ∈ line, isMark ch = false)
include hmore hmarks

theorem OnLine.skipRelationshipName (h : OnLine line more c) :
    NotBeyond line more c.skipRelationshipName := by
  have hb := hmore.stops_isBlank
  have hc := hmore.head?_ne_colon
  unfold Cursor.skipRelationshipName
  split
  · exact NotBeyond.skipOptional (.inl h) hb hc (by decide)
  · exact (NotBeyond.skipBlank (.inl (h.readName hmarks)) hb).skipOptional hb hc (by decide)

theorem notBeyond_readRelationship (h : OnLine line more c.skipKeyword.skipBlank) :
    NotBeyond line more c.readRelationship.next := by
  have hb := hmore.stops_isBlank
  have hs := h.skipRelationshipName hmore hmarks
  have ho := overrun_skipRelationshipName c.skipKeyword.skipBlank
  unfold readRelationship
  dsimp only
  generalize c.skipKeyword.skipBlank.skipRelationshipName = start at hs ho ⊢
  rcases hs with hs | hs
  · -- The first endpoint is on the line, and the second one is there or the table stands for it.
    have hsource := NotBeyond.skipBlank (.inl (hs.readEndpoint hmarks)) hb
    have hmiddle : NotBeyond line more start.readEndpoint.2.skipBlank.readOperator.2.skipBlank := by
      rcases hsource with hl | he
      · exact NotBeyond.skipBlank (.inl hl.readOperator) hb
      · rw [hmore.readOperator_eq he]
        exact NotBeyond.skipBlank (.inr he) hb
    have hz : start.readEndpoint.2.skipBlank.readOperator.2.skipBlank.overrun = 0 :=
      overrun_skipBlank _
    generalize start.readEndpoint.2.skipBlank.readOperator = operator at hmiddle hz ⊢
    split
    · next a b _ htarget =>
      rcases hmiddle with hl | he
      · exact .inl (hl.readEndpoint hmarks)
      · rw [hmore.readEndpoint_eq_none he hz] at htarget
        cases htarget
    · exact hmiddle
    · exact .inl hs
  · -- The table stands where the first endpoint should.
    rw [hmore.readEndpoint_eq_none hs ho]
    exact .inr hs

end Relationship

end Cursor

open Cursor

/-- A line whose first letters are the keyword of a relationship. No definition is opened behind
the keyword, and no quotation. -/
structure ReferenceLine where
  before : List Char
  keyword : String
  behind : List Char
  before_letterless : before.all fun ch => !ch.isAlpha
  keyword_eq : keyword = "Ref" ∨ keyword = "ref"
  behind_stops : Stops Char.isAlpha behind
  newline_notMem : '\n' ∉ before ++ (keyword.toList ++ behind)
  behind_markless : behind.all fun ch => !isMark ch
  behind_undefining : ∀ part ∈ behind.tails, (place 0 part).definition? = none

namespace ReferenceLine

variable (line : ReferenceLine)

def text : String :=
  String.ofList (line.before ++ (line.keyword.toList ++ line.behind))

theorem all_isAlpha_keyword : line.keyword.toList.all Char.isAlpha := by
  rcases line.keyword_eq with h | h <;> rw [h] <;> decide

theorem ofKeyword?_keyword : Definition.ofKeyword? line.keyword = some .relationship := by
  rcases line.keyword_eq with h | h <;> rw [h] <;> decide

theorem stops_isBlank_keyword (rest : List Char) :
    Stops Text.isBlank (line.keyword.toList ++ rest) := by
  rcases line.keyword_eq with h | h <;> rw [h] <;> exact stops_cons.2 (by decide)

theorem stops_isAlpha_behind (more : List Char) :
    Stops Char.isAlpha (line.behind ++ '\n' :: more) := by
  have h := line.behind_stops
  cases hb : line.behind with
  | nil => exact stops_cons.2 (by decide)
  | cons ch rest =>
    rw [hb, stops_cons] at h
    exact stops_cons.2 h

theorem isMark_behind : ∀ ch ∈ line.behind, isMark ch = false := fun ch hc => by
  simpa using List.all_eq_true.1 line.behind_markless ch hc

theorem isAlpha_before : ∀ ch ∈ line.before, ch.isAlpha = false := fun ch hc => by
  simpa using List.all_eq_true.1 line.before_letterless ch hc

theorem newline_notMem_behind : '\n' ∉ line.behind := fun h =>
  line.newline_notMem (List.mem_append_right _ (List.mem_append_right _ h))

variable {line} {more : List Char} {tables : List Table}

theorem gives_part (h : Gives more tables) {rest : List Char} (k : rest <:+ line.behind) :
    Gives (rest ++ '\n' :: more) tables := by
  have hnewline : '\n' ∉ rest ++ [] := by
    rw [List.append_nil]
    exact fun hn => line.newline_notMem_behind (k.subset hn)
  have hd (part : List Char) (hp : part <:+ rest) (_ : part ≠ []) :
      (place 0 (part ++ ([] ++ '\n' :: more))).definition? = none := by
    have hk : (place 0 (part ++ ([] ++ '\n' :: more))).keyword = (place 0 part).keyword := by
      simp only [Cursor.keyword, place_rest, List.nil_append, List.takeWhile_append]
      split
      · next hall =>
        have he := (List.takeWhile_prefix (l := part) Char.isAlpha).eq_of_length hall
        simp [he]
      · rfl
    rw [definition?, hk]
    exact line.behind_undefining part ((List.mem_tails _ _).2 (hp.trans k))
  exact Gives.behind hnewline hd (h.blank (by decide)) h

theorem gives_keyword (h : Gives more tables) (hmore : OpensTable more)
    (k : ∃ ch ∈ line.behind, Text.isBlank ch = false) :
    Gives (line.keyword.toList ++ (line.behind ++ '\n' :: more)) tables := by
  intro n inStray
  have hd := definition?_place n line.all_isAlpha_keyword (line.stops_isAlpha_behind more)
    line.ofKeyword?_keyword
  have hskip := skipKeyword_place n line.all_isAlpha_keyword (line.stops_isAlpha_behind more)
  rw [segments_of_definition n (line.stops_isBlank_keyword _) hd, readDefinition]
  generalize place n (line.keyword.toList ++ (line.behind ++ '\n' :: more)) = c at hskip ⊢
  have honline : OnLine line.behind more c.skipKeyword.skipBlank := by
    refine ⟨line.behind.dropWhile Text.isBlank, List.dropWhile_suffix _, ?_⟩
    have hr : c.skipKeyword.skipBlank.rest =
        (line.behind ++ '\n' :: more).dropWhile Text.isBlank := by
      rw [hskip]
      rfl
    rw [hr, List.dropWhile_append, if_neg]
    obtain ⟨ch, hc, hb⟩ := k
    simpa using ⟨ch, hc, hb⟩
  have hnext := notBeyond_readRelationship hmore line.isMark_behind honline
  have ho := overrun_readRelationship c
  simp only [List.filterMap_cons_none (show Segment.table? (.relationship _ _) = none from rfl)]
  generalize c.readRelationship.next = next at hnext ho ⊢
  obtain ⟨offset, rest, overrun⟩ := next
  obtain rfl : overrun = 0 := ho
  rcases hnext with ⟨part, hp, hr⟩ | hr
  · obtain rfl : rest = part ++ '\n' :: more := hr
    exact gives_part h hp offset false
  · obtain rfl : rest = more := hr
    exact h offset false

end ReferenceLine

theorem opensTable_renderTable (table : Table) : OpensTable (renderTable table).toList :=
  ⟨_, by rw [renderTable_eq, toList_renderTableWith]; rfl⟩

theorem gives_renderTable {table : Table} (h : ExpressibleTable table) :
    Gives (renderTable table).toList [table] := by
  intro n inStray
  obtain ⟨rest, hrest⟩ := opensTable_renderTable table
  have hb : Stops Text.isBlank (renderTable table).toList :=
    (opensTable_renderTable table).stops_isBlank
  have hd : (place n (renderTable table).toList).definition? = some .table := by
    rw [hrest]
    exact definition?_place n (by decide) (stops_cons.2 (by decide)) (by decide)
  have hsame : (place n (renderTable table).toList).segments inStray =
      (place n (renderTable table).toList).segments false := by
    rw [segments_of_definition n hb hd, segments_of_definition n hb hd]
  obtain ⟨segments, hs, hp, _⟩ :=
    readsAs_renderTableWith h (allHarmless_empty.table 0) n [] endsName_nil
  rw [List.append_nil, segments_nil, List.append_nil, ← renderTable_eq] at hs
  rw [hsame, hs]
  exact congrArg Schema.tables hp

/-- A line that starts a relationship takes nothing of the table after it, if something stands
behind its keyword or the keyword stands in a comment. -/
theorem tables_read_referenceLine (line : ReferenceLine)
    (h : (∃ ch ∈ line.behind, Text.isBlank ch = false) ∨ ['/', '/'] <:+: line.before)
    {table : Table} (k : ExpressibleTable table) :
    (read (line.text ++ "\n" ++ renderTable table)).schema.tables = [table] := by
  have hmore := gives_renderTable k
  have hstart (text : List Char) : ofPosition text 0 = place 0 text := by
    simp [ofPosition, place]
  have htext : (line.text ++ "\n" ++ renderTable table).toList =
      line.before ++
        (line.keyword.toList ++ line.behind ++ '\n' :: (renderTable table).toList) := by
    simp [ReferenceLine.text]
  have hgives : Gives
      (line.before ++ (line.keyword.toList ++ line.behind ++ '\n' :: (renderTable table).toList))
      [table] := by
    have hletterless (part : List Char) (hp : part ⊆ line.before) (hne : part ≠ [])
        (more : List Char) : (place 0 (part ++ more)).definition? = none := by
      obtain ⟨ch, tail, rfl⟩ := List.exists_cons_of_ne_nil hne
      exact definition?_place_of_not_isAlpha 0 (line.isAlpha_before ch (hp (by simp)))
    rcases h with h | ⟨start, rest, he⟩
    · refine Gives.behind line.newline_notMem (fun part hp hne => ?_) ?_ hmore
      · exact hletterless part hp.subset hne _
      · rw [List.append_assoc]
        exact ReferenceLine.gives_keyword hmore (opensTable_renderTable table) h
    · -- The comment takes up the rest of the line, the keyword included.
      have hline : line.before ++ (line.keyword.toList ++ line.behind) =
          start ++ (['/', '/'] ++ rest ++ (line.keyword.toList ++ line.behind)) := by
        simp [← he]
      have hnewline := line.newline_notMem
      rw [hline] at hnewline
      rw [← List.append_assoc, hline, List.append_assoc]
      refine Gives.behind hnewline (fun part hp hne => ?_) (hmore.comment ?_ ?_) hmore
      · have hstart : start ⊆ line.before := fun ch hc => he ▸ by simp [hc]
        exact hletterless part (fun ch hc => hstart (hp.subset hc)) hne _
      · exact ⟨rest ++ (line.keyword.toList ++ line.behind), by simp⟩
      · exact fun hn => hnewline (List.mem_append_right _ hn)
  rw [read, hstart, htext]
  exact hgives 0 false

theorem undefining_openReference :
    ∀ part ∈ ": shop.order ->".toList.tails, (place 0 part).definition? = none := by
  decide +kernel

def openReference : ReferenceLine where
  before := "1. ".toList
  keyword := "Ref"
  behind := ": shop.order ->".toList
  before_letterless := by decide
  keyword_eq := .inl rfl
  behind_stops := stops_cons.2 (by decide)
  newline_notMem := by decide
  behind_markless := by decide
  behind_undefining := undefining_openReference

theorem tables_read_openReference :
    ((∃ ch ∈ openReference.behind, Text.isBlank ch = false) ∨
      ['/', '/'] <:+: openReference.before) ∧ ExpressibleTable orderTable ∧
      (read (openReference.text ++ "\n" ++ renderTable orderTable)).schema.tables =
        [orderTable] := by
  have h : (∃ ch ∈ openReference.behind, Text.isBlank ch = false) ∨
      ['/', '/'] <:+: openReference.before := .inl ⟨':', by decide +kernel, by decide⟩
  exact ⟨h, expressible_orderTable,
    tables_read_referenceLine openReference h expressible_orderTable⟩

def bareReference : ReferenceLine where
  before := []
  keyword := "Ref"
  behind := []
  before_letterless := by decide
  keyword_eq := .inl rfl
  behind_stops := stops_nil _
  newline_notMem := by decide
  behind_markless := by decide
  behind_undefining := by decide

def usersTable : Table where
  id := "users"
  name := "users"
  columns := [{ name := "id", type := "int" }]

theorem expressible_usersTable : ExpressibleTable usersTable where
  id_eq := by decide
  name_ne := by decide
  name_dotFree := by decide
  schema_ne := by decide
  schema_dotFree := by decide
  id_quotable := by decide
  note_quotable := by decide
  color_none := rfl
  columns := by
    intro column hc
    obtain rfl := List.mem_singleton.1 hc
    constructor <;> decide +kernel
  indexes := by simp [usersTable]

/-- Behind the keyword alone, the keyword of the table is taken for the name of the relationship. -/
theorem table_lost_of_bareReference :
    ExpressibleTable usersTable ∧
      bareReference.text ++ "\n" ++ renderTable usersTable =
        "Ref\nTable users \x7b\n  id int\n\x7d" ∧
      (read (bareReference.text ++ "\n" ++ renderTable usersTable)).schema.tables = [] :=
  ⟨expressible_usersTable, by decide +kernel, by decide +kernel⟩

end SchemaText.Diagram
