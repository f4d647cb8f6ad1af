import SchemaText.Sql.Draft
/-! The columns that a primary key names: of the columns of one name it marks the first one, and it
reports the names that no column has. -/

namespace SchemaText.Sql.Draft

def isKey (names : List String) (columns : List Column) (place : Nat) (column : Column) : Bool :=
  names.contains column.name && !((columns.take place).map Column.name).contains column.name

def keyed (names : List String) (columns : List Column) : List Column :=
  columns.mapIdx fun place column =>
    { column with primaryKey := column.primaryKey || isKey names columns place column }

def unknownNames (names : List String) (columns : List Column) : List String :=
  names.filter fun name => !(columns.map Column.name).contains name

section Keys

variable {name : String} {names : List String} {column : Column} {columns : List Column}

theorem keyed_cons (names : List String) (column : Column) (columns : List Column) :
    keyed names (column :: columns) =
      { column with primaryKey := column.primaryKey || names.contains column.name } ::
        keyed (names.filter (· ≠ column.name)) columns := by
  unfold keyed
  rw [List.mapIdx_cons]
  congr 1
  · simp [isKey]
  · -- Behind a column its name counts no more.
    congr 1
    funext place other
    congr 2
    rw [Bool.eq_iff_iff]
    simp [isKey, and_assoc]

theorem keyed_eq_self (h : ∀ name ∈ names, name ∉ columns.map Column.name) :
    keyed names columns = columns := by
  induction columns generalizing names with
  | nil => rfl
  | cons column columns ih =>
    have hcolumn : names.contains column.name = false := by
      simpa using fun hin => h column.name hin List.mem_cons_self
    have hrest : ∀ name ∈ names.filter (· ≠ column.name), name ∉ columns.map Column.name :=
      fun name hn hin => h name (List.mem_filter.1 hn).1 (List.mem_cons_of_mem _ hin)
    rw [keyed_cons, ih hrest, hcolumn, Bool.or_false]

theorem map_name_keyed (names : List String) (columns : List Column) :
    (keyed names columns).map Column.name = columns.map Column.name := by
  induction columns generalizing names with
  | nil => rfl
  | cons column columns ih => rw [keyed_cons, List.map_cons, List.map_cons, ih]

theorem keyed_keyed (names more : List String) (columns : List Column) :
    keyed more (keyed names columns) = keyed (names ++ more) columns := by
  induction columns generalizing names more with
  | nil => rfl
  | cons column columns ih =>
    rw [keyed_cons, keyed_cons, keyed_cons, ih, List.filter_append]
    simp [Bool.or_assoc]

theorem markKey?_eq_keyed (name : String) (columns : List Column) :
    markKey? name columns =
      if (columns.map Column.name).contains name then some (keyed [name] columns) else none := by
  induction columns with
  | nil => rfl
  | cons column columns ih =>
    unfold markKey?
    by_cases hn : column.name = name
    · have hnone : keyed ([name].filter (· ≠ column.name)) columns = columns :=
        keyed_eq_self (by simp [hn])
      rw [if_pos hn, keyed_cons, hnone]
      simp [hn]
    · have hne : name ≠ column.name := Ne.symm hn
      rw [if_neg hn, ih, keyed_cons]
      by_cases hin : name ∈ columns.map Column.name
      · simp [hn, hne, hin]
      · simp [hne, hin]

theorem markKeys_eq_keyed (offset : Nat) (names : List String) (columns : List Column) :
    markKeys offset names columns = (keyed names columns,
      (unknownNames names columns).map fun name =>
        (Fault.keyColumnUnknown name).diagnostic offset) := by
  induction names generalizing columns with
  | nil => rw [markKeys, keyed_eq_self (by simp)]; rfl
  | cons name names ih =>
    unfold markKeys
    rw [markKey?_eq_keyed]
    by_cases hin : (columns.map Column.name).contains name
    · -- The names of the columns stay, and with them the names that are not known.
      have hunknown : unknownNames names (keyed [name] columns) =
          unknownNames (name :: names) columns := by
        rw [unknownNames, map_name_keyed, unknownNames,
          List.filter_cons_of_neg (by simpa using hin)]
      simp only [hin, if_true]
      rw [ih, keyed_keyed, hunknown, List.singleton_append]
    · have hsame : keyed [name] columns = columns :=
        keyed_eq_self (by simpa using hin)
      have hkeyed : keyed names columns = keyed (name :: names) columns := by
        rw [← List.singleton_append, ← keyed_keyed, hsame]
      simp only [hin]
      rw [ih, hkeyed, unknownNames, unknownNames, List.filter_cons_of_pos (by simpa using hin)]
      rfl

end Keys

end SchemaText.Sql.Draft
