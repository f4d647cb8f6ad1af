import Mathlib.Data.List.Forall2
import SchemaText.Proofs.Sql.KeyedColumns
/-! What the constraint clauses of a table do: they mark columns, add relationships or an index, or
are reported. All else of the table stays, so that the columns are those that the column clauses
give. -/

namespace SchemaText.Sql.Draft

open Pattern

section Meaning

/-- The column, as it was or marked as part of the primary key. -/
def IsMarkedFrom (column marked : Column) : Prop :=
  marked = column ∨ marked = { column with primaryKey := true }

/-- The draft may have marks that the earlier one does not have, and more indexes and relationships
behind the earlier ones. -/
structure Extends (draft next : Draft) : Prop where
  id : next.table.id = draft.table.id
  name : next.table.name = draft.table.name
  schema : next.table.schema = draft.table.schema
  note : next.table.note = draft.table.note
  color : next.table.color = draft.table.color
  columns : List.Forall₂ IsMarkedFrom draft.table.columns next.table.columns
  indexes : draft.table.indexes <+: next.table.indexes
  relationships : draft.relationships <+: next.relationships

/-- What a constraint clause makes of a draft and what is reported of it: one of four things. -/
inductive Effect (draft : Draft) (clause : Clause) : Draft × List Diagnostic → Prop where
  | keys {m : Match} (h : Constraint.primaryKey.search clause.text = some m) :
    Effect draft clause
      ({ draft with
          table := { draft.table with columns := keyed (columnNames m) draft.table.columns } },
        (unknownNames (columnNames m) draft.table.columns).map fun name =>
          (Fault.keyColumnUnknown name).diagnostic clause.offset)
  | relationships {m : Match} {added : List Relationship}
    (h : Constraint.foreignKey.search clause.text = some m) (hne : added ≠ [])
    (hcolumns : added.map Relationship.fromColumn = columnNames m) :
    Effect draft clause ({ draft with relationships := draft.relationships ++ added }, [])
  | index {m : Match} {added : Index}
    (h : Constraint.unique.search clause.text = some m ∨
      Constraint.index.search clause.text = some m)
    (hcolumns : added.columns = columnNames m) :
    Effect draft clause
      ({ draft with table := { draft.table with indexes := draft.table.indexes ++ [added] } }, [])
  | fault {fault : Fault} (h : fault = .keyListsUnpaired ∨ fault = .constraintUnsupported) :
    Effect draft clause (draft, [fault.diagnostic clause.offset])

/-- A clause, to be applied as a constraint or as a column. -/
inductive Step where
  | constraint (clause : Clause)
  | column (clause : Clause)

def Step.apply (draft : Draft) : Step → Draft × List Diagnostic
  | .constraint clause => draft.applyConstraint clause
  | .column clause => draft.applyColumn clause

/-- The column that the clause gives by itself, in a table of this id. -/
def Step.column? (id : String) : Step → Option Column
  | .constraint _ => none
  | .column clause => (readColumn id clause).column

def applySteps : Draft → List Step → Draft × List Diagnostic
  | draft, [] => (draft, [])
  | draft, step :: steps =>
    let first := step.apply draft
    let rest := first.1.applySteps steps
    (rest.1, first.2 ++ rest.2)

/-- How a clause of a table is applied; a blank one is not. -/
def step? (clause : Clause) : Option Step :=
  if clause.trim.text = [] then none
  else if (Constraint.opening.matchStart clause.trim.text).isSome then
    some (.constraint clause.trim)
  else some (.column clause.trim)

end Meaning

section Constraints

variable {draft next : Draft} {clause : Clause} {result : Draft × List Diagnostic}

theorem IsMarkedFrom.trans {column middle marked : Column} (h : IsMarkedFrom column middle)
    (k : IsMarkedFrom middle marked) : IsMarkedFrom column marked := by
  rcases h with rfl | rfl
  · exact k
  · rcases k with rfl | rfl
    · exact .inr rfl
    · exact .inr rfl

theorem forall₂_isMarkedFrom_refl (columns : List Column) :
    List.Forall₂ IsMarkedFrom columns columns :=
  List.forall₂_same.2 fun _ _ => .inl rfl

theorem forall₂_isMarkedFrom_trans {columns middle marked : List Column}
    (h : List.Forall₂ IsMarkedFrom columns middle) (k : List.Forall₂ IsMarkedFrom middle marked) :
    List.Forall₂ IsMarkedFrom columns marked := by
  induction h generalizing marked with
  | nil => exact k
  | cons hc _ ih =>
    cases k with
    | cons kc ks => exact .cons (hc.trans kc) (ih ks)

theorem forall₂_isMarkedFrom_keyed (names : List String) (columns : List Column) :
    List.Forall₂ IsMarkedFrom columns (keyed names columns) := by
  induction columns generalizing names with
  | nil => exact .nil
  | cons column columns ih =>
    rw [keyed_cons]
    refine .cons ?_ (ih _)
    cases names.contains column.name with
    | false => exact .inl (by rw [Bool.or_false])
    | true => exact .inr (by rw [Bool.or_true])

theorem Effect.extends (h : Effect draft clause result) : draft.Extends result.1 := by
  have hcolumns := forall₂_isMarkedFrom_refl draft.table.columns
  cases h with
  | keys h =>
    exact ⟨rfl, rfl, rfl, rfl, rfl, forall₂_isMarkedFrom_keyed _ _, List.prefix_rfl,
      List.prefix_rfl⟩
  | relationships =>
    exact ⟨rfl, rfl, rfl, rfl, rfl, hcolumns, List.prefix_rfl, List.prefix_append _ _⟩
  | index =>
    exact ⟨rfl, rfl, rfl, rfl, rfl, hcolumns, List.prefix_append _ _, List.prefix_rfl⟩
  | fault => exact ⟨rfl, rfl, rfl, rfl, rfl, hcolumns, List.prefix_rfl, List.prefix_rfl⟩

theorem foreignKeys_cases (table : String) (columns target targetColumns : List Char)
    (offset : Nat) :
    foreignKeys table columns target targetColumns offset =
        ([], [Fault.keyListsUnpaired.diagnostic offset]) ∨
      ∃ added, foreignKeys table columns target targetColumns offset = (added, []) ∧ added ≠ [] ∧
        added.map Relationship.fromColumn = (Identifier.cleanList columns).map String.ofList := by
  unfold foreignKeys
  dsimp only
  split
  · exact .inl rfl
  · next h =>
    obtain ⟨hne, hlen⟩ := not_or.1 h
    rw [not_not] at hlen
    refine .inr ⟨_, rfl, fun hnil => hne ?_, ?_⟩
    · rcases List.zipWith_eq_nil_iff.1 hnil with h | h
      · exact h
      · rw [h] at hlen
        exact List.eq_nil_of_length_eq_zero hlen
    · exact List.ext_getElem (by simp [hlen]) fun i _ _ => by simp

theorem effect_applyConstraint (draft : Draft) (clause : Clause) :
    Effect draft clause (draft.applyConstraint clause) := by
  unfold applyConstraint
  split
  · next m hm =>
    dsimp only
    rw [markKeys_eq_keyed]
    exact .keys hm
  · split
    · next m hm =>
      dsimp only
      rcases foreignKeys_cases draft.table.id (m.text "columns") (m.text "target")
        (m.text "target_columns") clause.offset with h | ⟨added, h, hne, hcolumns⟩
      · rw [h]
        have hsame : draft.addRelationships [] = draft := by simp [addRelationships]
        rw [hsame]
        exact .fault (.inl rfl)
      · rw [h]
        exact .relationships hm hne hcolumns
    · split
      · next m hm => exact .index (.inl hm) rfl
      · split
        · next m hm => exact .index (.inr hm) rfl
        · exact .fault (.inr rfl)

end Constraints

section Steps

theorem Step.forall₂_columns (draft : Draft) (step : Step) :
    (step.apply draft).1.table.id = draft.table.id ∧
      List.Forall₂ IsMarkedFrom (draft.table.columns ++ (step.column? draft.table.id).toList)
        (step.apply draft).1.table.columns := by
  cases step with
  | constraint clause =>
    have h := (effect_applyConstraint draft clause).extends
    exact ⟨h.id, by simpa [Step.column?, Step.apply] using h.columns⟩
  | column clause =>
    unfold Step.apply Step.column? applyColumn
    dsimp only
    cases (readColumn draft.table.id clause).column with
    | none =>
      refine ⟨rfl, ?_⟩
      rw [Option.toList_none, List.append_nil]
      exact forall₂_isMarkedFrom_refl _
    | some column => exact ⟨rfl, forall₂_isMarkedFrom_refl _⟩

theorem forall₂_applySteps (draft : Draft) (steps : List Step) :
    List.Forall₂ IsMarkedFrom
      (draft.table.columns ++ steps.filterMap (Step.column? draft.table.id))
      (draft.applySteps steps).1.table.columns := by
  induction steps generalizing draft with
  | nil => simpa [applySteps] using forall₂_isMarkedFrom_refl _
  | cons step steps ih =>
    obtain ⟨hid, hfirst⟩ := step.forall₂_columns draft
    have hrest := ih (step.apply draft).1
    rw [hid] at hrest
    have hall : draft.table.columns ++ (step :: steps).filterMap (Step.column? draft.table.id) =
        draft.table.columns ++ (step.column? draft.table.id).toList ++
          steps.filterMap (Step.column? draft.table.id) := by
      rw [List.append_assoc, List.filterMap_cons]
      cases step.column? draft.table.id <;> rfl
    rw [hall]
    -- A column may be marked by several of the clauses behind its own.
    have hmore := List.rel_append hfirst
      (forall₂_isMarkedFrom_refl (steps.filterMap (Step.column? draft.table.id)))
    exact forall₂_isMarkedFrom_trans hmore hrest

theorem applyClauses_eq_applySteps (draft : Draft) (clauses : List Clause) :
    draft.applyClauses clauses = draft.applySteps (clauses.filterMap step?) := by
  induction clauses generalizing draft with
  | nil => rfl
  | cons clause clauses ih =>
    unfold applyClauses
    rw [List.filterMap_cons]
    unfold step?
    split
    · exact ih draft
    · have hfirst : draft.applyClause clause.trim =
          (if (Constraint.opening.matchStart clause.trim.text).isSome then
            Step.constraint clause.trim else .column clause.trim).apply draft := by
        unfold applyClause
        split <;> rfl
      rw [hfirst, ← apply_ite some]
      simp only [ih]
      rfl

end Steps

/-- A constraint clause does one of four things, and whatever it does, it leaves all else of the
table. So the columns of a table are those that its column clauses give, marked or not, in any
sequence of clauses and in that of every table. -/
theorem frame_applyConstraint (draft : Draft) (clause : Clause) (steps : List Step)
    (clauses : List Clause) :
    Effect draft clause (draft.applyConstraint clause) ∧
      draft.Extends (draft.applyConstraint clause).1 ∧
      List.Forall₂ IsMarkedFrom
        (draft.table.columns ++ steps.filterMap (Step.column? draft.table.id))
        (draft.applySteps steps).1.table.columns ∧
      draft.applyClauses clauses = draft.applySteps (clauses.filterMap step?) :=
  ⟨effect_applyConstraint draft clause, (effect_applyConstraint draft clause).extends,
    forall₂_applySteps draft steps, applyClauses_eq_applySteps draft clauses⟩

end SchemaText.Sql.Draft
