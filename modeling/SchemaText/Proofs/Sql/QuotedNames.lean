import SchemaText.Proofs.Sql.Attribute
import SchemaText.Proofs.Sql.NameList
/-! Lists of names in quotation marks: a list is cut at each of its commas, also at those within a
name, so that exactly the names without commas are kept whole. -/

namespace SchemaText.Sql

open Pattern
open ColumnClause (BareName Head Token Behind Written referenceEnd)
open Sql.Core (enclosed textsOf text_eq)
open Text (Stops stops_nil stops_cons isBlank isWord)

/-- The marks in which a name is quoted. -/
inductive NameMark where
  | double
  | grave

def NameMark.char : NameMark → Char
  | double => '"'
  | grave => '`'

def nameDelimiters : List Char :=
  ['\'', '"', '`', '[', ']', '(', ')', '.']

/-- What can be quoted as a name. -/
structure QuotableName where
  chars : List Char
  ne_nil : chars ≠ []
  trim_eq : Text.trim chars = chars
  plain : ∀ c ∈ chars, c ∉ nameDelimiters

namespace QuotableName

def text (name : QuotableName) : String :=
  String.ofList name.chars

def quoted (mark : NameMark) (name : QuotableName) : List Char :=
  mark.char :: (name.chars ++ [mark.char])

end QuotableName

def quotedList (mark : NameMark) (names : List QuotableName) : List Char :=
  ", ".toList.intercalate (names.map (·.quoted mark))

/-- The relationship of a column to the one column that it refers to. -/
def relationshipOf (table : String) (name : QuotableName) (target column : BareName) :
    Relationship where
  fromTable := table
  fromColumn := name.text
  toTable := target.text
  toColumn := column.text
  cardinality := .manyToOne

/-- A list of quoted names is read as the list of these names, by itself, as the columns of a unique
constraint, and where one of the names is the column that refers to another table. -/
structure KeepsNames (mark : NameMark) (names : Several QuotableName) : Prop where
  list : Identifier.cleanList (quotedList mark names.list) = names.list.map QuotableName.chars
  unique : ∀ (draft : Draft) (offset : Nat),
    draft.applyClause ⟨offset, "UNIQUE ".toList ++ enclosed (quotedList mark names.list)⟩ =
      ({ draft with
          table := { draft.table with
            indexes := draft.table.indexes ++
              [{ columns := names.list.map QuotableName.text, unique := true }] } }, [])
  reference : ∀ name ∈ names.list, ∀ (draft : Draft) (offset : Nat) (target column : BareName)
    (head : Head) (tail : List Char), head.name = name.quoted mark → head.Precedes tail →
    Written [.keyword "REFERENCES", .target target column] tail →
    (draft.applyClause ⟨offset, head.chars ++ tail⟩).1.relationships =
        draft.relationships ++ [relationshipOf draft.table.id name target column] ∧
      (draft.applyClause ⟨offset, head.chars ++ tail⟩).2 = []

section Quoted

variable (mark : NameMark) (name : QuotableName)

theorem QuotableName.ne_of_mem {c d : Char} (h : c ∈ name.chars) (k : d ∈ nameDelimiters) : c ≠ d :=
  fun he => name.plain c h (he ▸ k)

theorem QuotableName.isEnclosing_eq_false {c : Char} (h : c ∈ name.chars) :
    Identifier.isEnclosing c = false := by
  have hgrave : c ≠ '`' := name.ne_of_mem h (by decide)
  have hdouble : c ≠ '"' := name.ne_of_mem h (by decide)
  have hopen : c ≠ '[' := name.ne_of_mem h (by decide)
  have hclose : c ≠ ']' := name.ne_of_mem h (by decide)
  simp [Identifier.isEnclosing, hgrave, hdouble, hopen, hclose]

theorem NameMark.isEnclosing (mark : NameMark) : Identifier.isEnclosing mark.char := by
  cases mark <;> decide

theorem QuotableName.clean_quoted : Identifier.clean (name.quoted mark) = name.chars := by
  have hfilter : (name.quoted mark).filter (fun c => !Identifier.isEnclosing c) = name.chars := by
    have hname : name.chars.filter (fun c => !Identifier.isEnclosing c) = name.chars :=
      List.filter_eq_self.2 fun c hc => by rw [name.isEnclosing_eq_false hc]; rfl
    simp [quoted, mark.isEnclosing, hname]
  have hdots : Text.split (· == '.') name.chars = [name.chars] :=
    Text.split_eq_singleton fun c hc => by simpa using name.ne_of_mem hc (d := '.') (by decide)
  unfold Identifier.clean
  rw [hfilter, hdots, List.map_singleton, name.trim_eq, Text.intercalate_cons, List.flatMap_nil,
    List.append_nil]

theorem QuotableName.trim_quoted : Text.trim (name.quoted mark) ≠ [] := by
  refine Text.trim_ne_nil_of_mem (c := mark.char) List.mem_cons_self ?_
  cases mark <;> decide

theorem QuotableName.ne_comma_of_mem_quoted (h : ',' ∉ name.chars) :
    ∀ c ∈ name.quoted mark, (c == ',') = false := by
  have hmark : (mark.char == ',') = false := by cases mark <;> decide
  simp only [quoted, List.mem_cons, List.mem_append, List.not_mem_nil, or_false]
  rintro c (rfl | hc | rfl)
  · exact hmark
  · exact beq_eq_false_iff_ne.2 (ne_of_mem_of_not_mem hc h)
  · exact hmark

theorem QuotableName.all_isInner_quoted : (name.quoted mark).all Core.isInner := by
  have hmark : Core.isInner mark.char := by cases mark <;> decide
  have hname : name.chars.all Core.isInner := List.all_eq_true.2 fun c hc => by
    simp [Core.isInner, name.ne_of_mem hc (d := '(') (by decide),
      name.ne_of_mem hc (d := ')') (by decide)]
  simp [quoted, hmark, hname]

theorem QuotableName.cleanList_quoted (h : ',' ∉ name.chars) :
    Identifier.cleanList (name.quoted mark) = [name.chars] := by
  unfold Identifier.cleanList
  rw [Text.split_eq_singleton (name.ne_comma_of_mem_quoted mark h)]
  simp [name.trim_quoted mark, name.clean_quoted mark]

end Quoted

section Lists

variable {mark : NameMark} {names : List QuotableName}

theorem all_isInner_quotedList (mark : NameMark) (names : List QuotableName) :
    (quotedList mark names).all Core.isInner := by
  refine Core.all_intercalate (by decide) fun part hp => ?_
  obtain ⟨name, _, rfl⟩ := List.mem_map.1 hp
  exact name.all_isInner_quoted mark

theorem cleanList_quotedList (hne : names ≠ []) (h : ∀ name ∈ names, ',' ∉ name.chars) :
    Identifier.cleanList (quotedList mark names) = names.map QuotableName.chars := by
  have hattach : names.attach ≠ [] := by simpa using hne
  have hclean (name : {name // name ∈ names}) :
      Identifier.clean (name.1.quoted mark) = name.1.chars := name.1.clean_quoted mark
  have hlist := Core.cleanList_listed hattach
    (fun name => name.1.ne_comma_of_mem_quoted mark (h name.1 name.2))
    (fun name => name.1.trim_quoted mark) hclean
  simpa [quotedList] using hlist

theorem comma_notMem_of_mem_cleanList {written plain : List Char}
    (h : plain ∈ Identifier.cleanList written) : ',' ∉ plain := by
  intro hc
  obtain ⟨part, hp, rfl⟩ := List.mem_map.1 h
  have hsplit := (List.mem_filter.1 hp).1
  rcases Identifier.mem_clean hc with hc | ⟨hc, _⟩
  · cases hc
  · simpa using Text.not_separates_of_mem_split hsplit ',' hc

end Lists

section References

variable {target column : BareName} {head : Head} {tail : List Char} {mark : NameMark}

theorem ColumnClause.referencesOf_written {m : Match}
    (h : Written [.keyword "REFERENCES", .target target column] (m.text "tail"))
    (table : String) (offset : Nat) :
    ∃ inner, Identifier.cleanList inner = [column.chars] ∧
      referencesOf table offset m =
        foreignKeys table (m.text "name") target.chars inner offset := by
  obtain ⟨_, rest, hwrites, hr, htaken⟩ :=
    @found_keyed reference [] [] (m.text "tail") "REFERENCES" referenceEnd (.target target column) h
      (by decide) agrees_keyed_reference (by simp)
  cases hwrites with
  | target _ _ ho hb ha =>
    next outside before behind =>
    refine ⟨before ++ (column.chars ++ behind), column.cleanList_spaced hb ha, ?_⟩
    have hstops := target.stops (fun _ => Text.isBlank_eq_false_of_isWord)
    rw [referencesOf_eq, htaken _ _ _ rfl (by rw [List.append_assoc]; exact hstops _)
      (takes_referenceEnd target column ho hb ha rest)]
    rfl

theorem matchStart_opening_quoted (name : QuotableName) (hname : head.name = name.quoted mark) :
    Constraint.opening.matchStart (head.chars ++ tail) = none := by
  have htext : head.chars ++ tail = mark.char ::
      (name.chars ++ mark.char :: (head.space ++ (head.type ++ (head.gap ++ tail)))) := by
    simp [Head.chars, hname, QuotableName.quoted]
  rw [htext]
  cases mark <;> rfl

theorem applyClause_reference {name : QuotableName} (h : ',' ∉ name.chars)
    (hname : head.name = name.quoted mark) (hhead : head.Precedes tail)
    (htail : Written [.keyword "REFERENCES", .target target column] tail) (draft : Draft)
    (offset : Nat) :
    (draft.applyClause ⟨offset, head.chars ++ tail⟩).1.relationships =
        draft.relationships ++ [relationshipOf draft.table.id name target column] ∧
      (draft.applyClause ⟨offset, head.chars ++ tail⟩).2 = [] := by
  obtain ⟨m, hm, hx⟩ := hhead.exists_matchStart
  have hmname : m.text "name" = name.quoted mark := (text_eq hx "name").trans hname
  have hmtail : m.text "tail" = tail := text_eq hx "tail"
  obtain ⟨inner, hinner, hreferences⟩ :=
    ColumnClause.referencesOf_written (by rwa [hmtail]) draft.table.id offset
  have hkeys : foreignKeys draft.table.id (name.quoted mark) target.chars inner offset =
      ([relationshipOf draft.table.id name target column], []) := by
    simp [foreignKeys, name.cleanList_quoted mark h, hinner, target.clean, relationshipOf,
      QuotableName.text, BareName.text]
  rw [hmname, hkeys] at hreferences
  unfold Draft.applyClause Draft.applyColumn readColumn
  simp only [matchStart_opening_quoted name hname, hm, hreferences]
  simp [Draft.addRelationships, Draft.addColumn, Draft.withColumns]

end References

section Kept

variable {mark : NameMark} {names : Several QuotableName}

theorem keepsNames_of_comma_notMem (h : ∀ name ∈ names.list, ',' ∉ name.chars) :
    KeepsNames mark names where
  list := cleanList_quotedList names.list_ne_nil h
  unique := fun draft offset => by
    rw [Core.applyClause_uniqueText draft offset (all_isInner_quotedList mark names.list)]
    unfold Core.cleanNames
    rw [cleanList_quotedList names.list_ne_nil h, List.map_map]
    rfl
  reference := fun name hm draft offset _ _ _ _ hname hhead htail =>
    applyClause_reference (h name hm) hname hhead htail draft offset

/-- Quoted names are kept where none of them holds a comma, and only there. -/
theorem keepsNames_iff (mark : NameMark) (names : Several QuotableName) :
    KeepsNames mark names ↔ ∀ name ∈ names.list, ',' ∉ name.chars := by
  refine ⟨fun h name hm => ?_, keepsNames_of_comma_notMem⟩
  have hkept : name.chars ∈ Identifier.cleanList (quotedList mark names.list) := by
    rw [h.list]
    exact List.mem_map_of_mem hm
  exact comma_notMem_of_mem_cleanList hkept

def commaName : QuotableName where
  chars := ['a', ',', 'b']
  ne_nil := List.cons_ne_nil _ _
  trim_eq := by decide +kernel
  plain := by simp [nameDelimiters]

theorem not_keepsNames_commaName : ¬ KeepsNames .double ⟨commaName, []⟩ := by
  intro h
  exact absurd h.list (by decide +kernel)

end Kept

end SchemaText.Sql
