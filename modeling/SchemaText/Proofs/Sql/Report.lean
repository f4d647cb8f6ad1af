import SchemaText.Sql.Script
/-! What is reported of an SQL text: the order of the reports, and where clauses make theirs. -/

namespace SchemaText.Sql

section Order

theorem pairwise_sortDiagnostics (diagnostics : List Diagnostic) :
    (sortDiagnostics diagnostics).Pairwise fun a b => a.offset ≤ b.offset := by
  have h : (sortDiagnostics diagnostics).Pairwise fun a b => decide (a.offset ≤ b.offset) :=
    List.pairwise_mergeSort
      (fun a b c hab hbc => by simp only [decide_eq_true_eq] at *; omega)
      (fun a b => by simp only [Bool.or_eq_true, decide_eq_true_eq]; omega) diagnostics
  exact h.imp fun hab => of_decide_eq_true hab

theorem mem_sortDiagnostics {diagnostics : List Diagnostic} {d : Diagnostic} :
    d ∈ sortDiagnostics diagnostics ↔ d ∈ diagnostics :=
  List.mem_mergeSort

theorem filter_sortDiagnostics {diagnostics : List Diagnostic} {p : Diagnostic → Bool}
    (h : (diagnostics.filter p).Pairwise fun a b => a.offset ≤ b.offset) :
    (sortDiagnostics diagnostics).filter p = diagnostics.filter p := by
  have hs : (diagnostics.filter p).Sublist (sortDiagnostics diagnostics) :=
    List.sublist_mergeSort
      (fun a b c hab hbc => by simp only [decide_eq_true_eq] at *; omega)
      (fun a b => by simp only [Bool.or_eq_true, decide_eq_true_eq]; omega)
      (h.imp fun hab => decide_eq_true hab) List.filter_sublist
  have hf : (diagnostics.filter p).Sublist ((sortDiagnostics diagnostics).filter p) := by
    simpa using hs.filter p
  refine (hf.eq_of_length ?_).symm
  exact ((List.mergeSort_perm diagnostics _).filter p).length_eq.symm

end Order

section Clauses

structure ReportsClause (offset : Nat) (diagnostic : Diagnostic) : Prop where
  construct : diagnostic.construct = .column ∨ diagnostic.construct = .constraint
  offset : diagnostic.offset = offset

theorem reportsClause_of_column {fault : Fault} (h : fault.construct = .column) (offset : Nat) :
    ∀ d ∈ [fault.diagnostic offset], ReportsClause offset d := by
  intro d hd
  rw [List.mem_singleton.1 hd]
  exact ⟨.inl h, rfl⟩

theorem reportsClause_of_constraint {fault : Fault} (h : fault.construct = .constraint)
    (offset : Nat) : ∀ d ∈ [fault.diagnostic offset], ReportsClause offset d := by
  intro d hd
  rw [List.mem_singleton.1 hd]
  exact ⟨.inr h, rfl⟩

theorem reportsClause_foreignKeys (table : String) (columns target targetColumns : List Char)
    (offset : Nat) :
    ∀ d ∈ (foreignKeys table columns target targetColumns offset).2, ReportsClause offset d := by
  unfold foreignKeys
  dsimp only
  split
  · exact reportsClause_of_constraint rfl offset
  · exact nofun

theorem reportsClause_readColumn (table : String) (clause : Clause) :
    ∀ d ∈ (readColumn table clause).diagnostics, ReportsClause clause.offset d := by
  unfold readColumn
  split
  · exact reportsClause_of_column rfl clause.offset
  · dsimp only
    unfold ColumnClause.referencesOf
    split
    · exact reportsClause_foreignKeys _ _ _ _ _
    · exact nofun

namespace Draft

theorem reportsClause_markKeys (offset : Nat) (names : List String) (columns : List Column) :
    ∀ d ∈ (markKeys offset names columns).2, ReportsClause offset d := by
  induction names generalizing columns with
  | nil => exact nofun
  | cons name names ih =>
    unfold markKeys
    split
    · next marked _ => exact ih marked
    · refine List.forall_mem_cons.2 ⟨⟨.inr rfl, rfl⟩, ih columns⟩

theorem reportsClause_applyConstraint (draft : Draft) (clause : Clause) :
    ∀ d ∈ (draft.applyConstraint clause).2, ReportsClause clause.offset d := by
  unfold applyConstraint
  split
  · exact reportsClause_markKeys _ _ _
  · split
    · exact reportsClause_foreignKeys _ _ _ _ _
    · split
      · exact nofun
      · split
        · exact nofun
        · exact reportsClause_of_constraint rfl clause.offset

theorem reportsClause_applyClause (draft : Draft) (clause : Clause) :
    ∀ d ∈ (draft.applyClause clause).2, ReportsClause clause.offset d := by
  unfold applyClause
  split
  · exact reportsClause_applyConstraint draft clause
  · exact reportsClause_readColumn _ clause

theorem exists_reportsClause_of_mem {draft : Draft} {clauses : List Clause} {d : Diagnostic}
    (h : d ∈ (draft.applyClauses clauses).2) :
    ∃ clause ∈ clauses, clause.trim.text ≠ [] ∧ ReportsClause clause.trim.offset d := by
  induction clauses generalizing draft with
  | nil => cases h
  | cons clause clauses ih =>
    have hlater {draft : Draft} (hd : d ∈ (draft.applyClauses clauses).2) :
        ∃ other ∈ clause :: clauses, other.trim.text ≠ [] ∧ ReportsClause other.trim.offset d := by
      obtain ⟨other, ho, hr⟩ := ih hd
      exact ⟨other, List.mem_cons_of_mem _ ho, hr⟩
    unfold applyClauses at h
    split at h
    · exact hlater h
    · next hne =>
      rcases List.mem_append.1 h with h | h
      · exact ⟨clause, List.mem_cons_self, hne, reportsClause_applyClause _ _ d h⟩
      · exact hlater h

end Draft

end Clauses

end SchemaText.Sql
