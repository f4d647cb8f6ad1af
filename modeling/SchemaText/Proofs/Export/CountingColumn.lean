import Mathlib.Data.List.Perm.Subperm
import SchemaText.Proofs.Export.BuiltCatalog
/-! The column of a table that counts up by itself: the table counts by the name of the first column
that may count, so that the column that is built under this name may count as well, if it is that
one. Then no script fails for the type of a column that counts. -/

namespace SchemaText.Export

section Meaning

/-- The column may count up: it is to, it belongs to the primary key, and it holds whole numbers. -/
def isEntitled (enumerations : List Enumeration) (column : Column) : Bool :=
  column.autoIncrement && column.primaryKey &&
    (TypeName.read enumerations column.type).toOption.any DataType.isInteger

/-- The first column that may count is the first one of its name. -/
def LeadsItsName (enumerations : List Enumeration) (columns : List Column) : Prop :=
  ∀ column ∈ columns.find? (isEntitled enumerations),
    columns.find? (·.name == column.name) = some column

instance (enumerations : List Enumeration) (columns : List Column) :
    Decidable (LeadsItsName enumerations columns) :=
  inferInstanceAs (Decidable (∀ column ∈ columns.find? (isEntitled enumerations), _))

/-- The columns that are built for a table. -/
def columnsOf (enumerations : List Enumeration) (table : Table) :
    Except Fault (List CatalogColumn) := do
  let counting ← autoIncrementColumn? enumerations table.columns
  (firstOfEachName [] table.columns).mapM (CatalogColumn.ofColumn enumerations counting)

def Fault.isCounting : Fault → Bool
  | .autoIncrementType .. => true
  | _ => false

end Meaning

section Columns

variable {enumerations : List Enumeration} {table : Table} {columns : List Column}
  {column : Column} {entries : List CatalogColumn} {entry : CatalogColumn}

theorem addTable_eq (lib : Library) (catalog : Catalog) (enumerations : List Enumeration)
    (table : Table) : catalog.addTable lib enumerations table =
      if catalog.hasId table.id || (catalog.registered? table.qualifiedName).isSome then .ok catalog
      else columnsOf enumerations table >>= catalog.register lib table := by
  unfold Catalog.addTable columnsOf
  split
  · rfl
  · rw [bind_assoc]

theorem counting_eq {counting : Option String}
    (h : autoIncrementColumn? enumerations columns = .ok counting) :
    counting = (columns.find? (isEntitled enumerations)).map Column.name := by
  induction columns with
  | nil => exact (Except.ok.inj h).symm
  | cons column columns ih =>
    unfold autoIncrementColumn? at h
    rw [List.find?_cons]
    split at h
    · next hflags =>
      obtain ⟨type, htype, h⟩ := exists_of_bind h
      have hentitled : isEntitled enumerations column = type.isInteger := by
        rw [isEntitled, hflags, htype]
        rfl
      rw [hentitled]
      split at h
      · next hinteger =>
        rw [hinteger]
        exact (Except.ok.inj h).symm
      · next hinteger =>
        rw [Bool.not_eq_true] at hinteger
        rw [hinteger]
        exact ih h
    · next hflags =>
      have hentitled : isEntitled enumerations column = false := by
        rw [isEntitled, Bool.eq_false_iff.2 hflags, Bool.false_and]
      rw [hentitled]
      exact ih h

theorem find?_of_mem_firstOfEachName {seen : List String}
    (h : column ∈ firstOfEachName seen columns) :
    column.name ∉ seen ∧ columns.find? (·.name == column.name) = some column := by
  induction columns generalizing seen with
  | nil => cases h
  | cons other columns ih =>
    unfold firstOfEachName at h
    rw [List.find?_cons]
    -- A column before it has another name: one that is seen, or one that is now.
    split at h
    · next hseen =>
      obtain ⟨hn, hfirst⟩ := ih h
      have hne : (other.name == column.name) = false := by
        simpa using fun he : other.name = column.name => hn (he ▸ hseen)
      rw [hne]
      exact ⟨hn, hfirst⟩
    · next hseen =>
      rcases List.mem_cons.1 h with rfl | h
      · exact ⟨hseen, by simp⟩
      · obtain ⟨hn, hfirst⟩ := ih h
        obtain ⟨hne, hn⟩ := not_or.1 (mt List.mem_cons.2 hn)
        have hne : (other.name == column.name) = false := by simpa using Ne.symm hne
        rw [hne]
        exact ⟨hn, hfirst⟩

theorem nodup_firstOfEachName (columns : List Column) :
    ((firstOfEachName [] columns).map Column.name).Nodup := by
  rw [firstOfEachName_eq]
  refine List.pairwise_map.2 ((pairwise_eraseDupsBy _).imp fun {a b} hab he => ?_)
  simp [he] at hab

theorem eq_of_find? {α : Type} {p q : α → Bool} {xs : List α} {a b : α} (ha : xs.find? p = some a)
    (hb : xs.find? q = some b) (hq : q a) (hp : p b) : a = b := by
  induction xs with
  | nil => cases ha
  | cons x xs ih =>
    rw [List.find?_cons] at ha hb
    cases hpx : p x with
    | true =>
      rw [hpx] at ha
      obtain rfl := Option.some.inj ha
      rw [hq] at hb
      exact Option.some.inj hb
    | false =>
      rw [hpx] at ha
      cases hqx : q x with
      | true =>
        rw [hqx] at hb
        obtain rfl := Option.some.inj hb
        rw [hp] at hpx
        cases hpx
      | false =>
        rw [hqx] at hb
        exact ih ha hb

theorem forall₂_columnsOf (k : columnsOf enumerations table = .ok entries) :
    List.Forall₂ (fun column entry => IsBuiltColumn enumerations table column entry ∧
      (entry.autoIncrement ↔ ∃ counting ∈ table.columns.find? (isEntitled enumerations),
        counting.name = column.name)) (firstOfEachName [] table.columns) entries := by
  unfold columnsOf at k
  obtain ⟨counting, hcounting, k⟩ := exists_of_bind k
  refine (forall₂_of_mapM k).imp fun column entry he => ?_
  have hbuilt := isBuiltColumn_of_ofColumn hcounting he
  refine ⟨hbuilt, ?_⟩
  obtain ⟨counting, hcounting, hmark⟩ := hbuilt.autoIncrement
  rw [hmark, counting_eq hcounting]
  simp [Option.map_eq_some_iff]

theorem length_marked_le_one (k : columnsOf enumerations table = .ok entries) :
    (entries.filter CatalogColumn.autoIncrement).length ≤ 1 := by
  have hrel := forall₂_columnsOf k
  have hnames : (entries.map CatalogColumn.name).Nodup := by
    rw [← map_eq_of_forall₂ hrel fun _ _ he => he.1.name.symm]
    exact nodup_firstOfEachName table.columns
  have hmarked : ∀ name ∈ (entries.filter CatalogColumn.autoIncrement).map CatalogColumn.name,
      name ∈ ((table.columns.find? (isEntitled enumerations)).map Column.name).toList := by
    intro name hn
    obtain ⟨entry, he, rfl⟩ := List.mem_map.1 hn
    obtain ⟨hin, hmark⟩ := List.mem_filter.1 he
    obtain ⟨column, _, hbuilt, hiff⟩ := exists_left_of_mem hrel hin
    obtain ⟨counting, hc, hname⟩ := hiff.1 hmark
    rw [hbuilt.name, ← hname, Option.mem_def.1 hc]
    exact List.mem_singleton_self _
  have hlen :=
    (List.subperm_of_subset (hnames.sublist (List.filter_sublist.map _)) hmarked).length_le
  rw [List.length_map] at hlen
  refine Nat.le_trans hlen ?_
  cases (table.columns.find? (isEntitled enumerations)).map Column.name <;> simp

theorem exists_kept_of_marked (k : columnsOf enumerations table = .ok entries)
    (he : entry ∈ entries) (hm : entry.autoIncrement) :
    ∃ column, table.columns.find? (·.name == entry.name) = some column ∧
      IsBuiltColumn enumerations table column entry ∧
      (isEntitled enumerations column ↔ LeadsItsName enumerations table.columns) := by
  obtain ⟨column, hc, hbuilt, hiff⟩ := exists_left_of_mem (forall₂_columnsOf k) he
  obtain ⟨counting, hcounting, hname⟩ := hiff.1 hm
  have hfirst := (find?_of_mem_firstOfEachName hc).2
  refine ⟨column, by rw [hbuilt.name]; exact hfirst, hbuilt, fun hentitled => ?_, fun hleads => ?_⟩
  · have heq : column = counting :=
      eq_of_find? hfirst hcounting hentitled (by simpa using hname)
    intro other ho
    obtain rfl := Option.some.inj (Option.mem_def.1 hcounting ▸ Option.mem_def.1 ho)
    rw [← heq]
    exact hfirst
  · have hlead := hleads counting hcounting
    rw [hname, hfirst] at hlead
    rw [Option.some.inj hlead]
    exact List.find?_some hcounting

theorem isInteger_of_isEntitled (h : IsBuiltColumn enumerations table column entry)
    (k : isEntitled enumerations column) : entry.type.isInteger := by
  unfold isEntitled at k
  rw [h.type] at k
  exact (Bool.and_eq_true_iff.1 k).2

end Columns

end SchemaText.Export
