import SchemaText.Proofs.Diagram.Within
/-! What is reported from within a definition, and at which places of the text. -/

namespace SchemaText.Diagram

def Notice.isInner : Notice → Bool
  | .unrecognisedContent | .tableIdRepeated _ => false
  | _ => true

namespace Segment

def ownDiagnostics : Segment → List Diagnostic
  | comment => []
  | stray offset => [Notice.unrecognisedContent.diagnostic offset]
  | table _ _ list => list
  | relationship _ list => list
  | enumeration _ list => list

def repeatReport (ids : List String) : Segment → List Diagnostic
  | table offset (some t) _ =>
    if t.id ∈ ids then [(Notice.tableIdRepeated t.id).diagnostic offset] else []
  | _ => []

theorem diagnostics_eq_append (segment : Segment) (ids : List String) :
    segment.diagnostics ids = segment.ownDiagnostics ++ segment.repeatReport ids := by
  cases segment with
  | table offset t list =>
    cases t with
    | none => exact (List.append_nil _).symm
    | some t =>
      unfold diagnostics ownDiagnostics repeatReport
      dsimp only
      split
      · rfl
      · exact (List.append_nil _).symm
  | _ => exact (List.append_nil _).symm

theorem ownDiagnostics_subset {segments : List Segment} {segment : Segment}
    (h : segment ∈ segments) (ids : List String) :
    segment.ownDiagnostics ⊆ allDiagnostics ids segments := by
  induction segments generalizing ids with
  | nil => cases h
  | cons first segments ih =>
    rw [allDiagnostics, diagnostics_eq_append]
    rcases List.mem_cons.1 h with rfl | h
    · exact List.subset_append_of_subset_left _ (List.subset_append_left _ _)
    · exact List.subset_append_of_subset_right _ (ih h _)

end Segment

namespace Cursor

def ReportsInner (c : Cursor) (diagnostics : List Diagnostic) : Prop :=
  ∀ d ∈ diagnostics, ∃ notice place, d = Notice.diagnostic notice place.offset ∧
    notice.isInner ∧ c.Reaches place

theorem reportsInner_nil (c : Cursor) : c.ReportsInner [] := by
  simp [ReportsInner]

theorem ReportsInner.append {c : Cursor} {first second : List Diagnostic}
    (h : c.ReportsInner first) (k : c.ReportsInner second) : c.ReportsInner (first ++ second) := by
  intro d hd
  exact (List.mem_append.1 hd).elim (h d) (k d)

theorem ReportsInner.of_reaches {c d : Cursor} {diagnostics : List Diagnostic}
    (h : d.ReportsInner diagnostics) (k : c.Reaches d) : c.ReportsInner diagnostics := by
  intro diagnostic hd
  obtain ⟨notice, place, he, hn, hp⟩ := h diagnostic hd
  exact ⟨notice, place, he, hn, k.trans hp⟩

theorem reportsInner_report {c : Cursor} {notice : Notice} (h : notice.isInner)
    (k : c.overrun = 0) : c.ReportsInner (c.report notice) := by
  intro d hd
  refine ⟨notice, c, ?_, h, Reaches.refl c⟩
  rw [List.mem_singleton.1 hd, position, k, Nat.add_zero]

section Attributes

theorem reportsInner_readAttributeAfter {start : Cursor} (h : start.overrun = 0)
    (name : List Char) (c : Cursor) :
    start.ReportsInner (start.readAttributeAfter name c).diagnostics := by
  unfold readAttributeAfter
  split
  · exact reportsInner_nil start
  · dsimp only
    split
    · exact reportsInner_nil start
    · exact reportsInner_report rfl h
  · exact reportsInner_nil start
  · exact reportsInner_nil start
  · exact reportsInner_report rfl h
  · exact reportsInner_report rfl h

theorem reportsInner_readAttribute {c : Cursor} (h : c.overrun = 0) :
    c.ReportsInner c.readAttribute.diagnostics := by
  unfold readAttribute
  dsimp only
  split
  · exact reportsInner_nil c
  · exact reportsInner_readAttributeAfter h _ _

theorem reportsInner_readAttributes (c : Cursor) :
    c.ReportsInner c.readAttributes.diagnostics := by
  fun_induction readAttributes c with
  | case1 | case2 => exact reportsInner_nil _
  | case3 c _ hs entry entries ih =>
    have hpass := passes_readAttribute (rest_ne_nil_of_stopsAt_eq_false (Bool.eq_false_iff.2 hs))
    have hentry : c.skipBlank.ReportsInner entry.diagnostics :=
      reportsInner_readAttribute (overrun_skipBlank c)
    exact (hentry.append (ih.of_reaches hpass.reaches)).of_reaches (reaches_skipBlank c)

theorem reportsInner_readColumnTail {c : Cursor} (h : c.overrun = 0) :
    c.ReportsInner c.readColumnTail.diagnostics := by
  unfold readColumnTail readAttributeList
  dsimp only
  split
  · next hp =>
    have hlist := reportsInner_readAttributes c.next
    have hclose := overrun_readAttributes (overrun_next_of_peek h hp)
    refine ReportsInner.of_reaches ?_ (reaches_next c)
    split
    · exact hlist
    · exact hlist.append ((reportsInner_report rfl hclose).of_reaches (reaches_readAttributes _))
  · exact reportsInner_nil c

theorem reportsInner_readColumn {c : Cursor} (h : c.overrun = 0) :
    c.ReportsInner c.readColumn.diagnostics := by
  unfold readColumn
  dsimp only
  split
  · exact reportsInner_report rfl h
  · exact (reportsInner_readColumnTail rfl).of_reaches
      ((reaches_readNameAndType c).trans (reaches_skipInline _))

end Attributes

section Indexes

theorem reportsInner_readIndex {c : Cursor} (h : c.overrun = 0) :
    c.ReportsInner c.readIndex.diagnostics := by
  unfold readIndex
  dsimp only
  split
  · exact reportsInner_report rfl h
  · exact reportsInner_nil c

theorem reportsInner_readIndexEntry {c : Cursor} (h : c.overrun = 0) :
    c.ReportsInner c.readIndexEntry.diagnostics := by
  unfold readIndexEntry
  split
  · exact reportsInner_nil c
  · exact reportsInner_readIndex h

theorem reportsInner_readIndexEntries (c : Cursor) :
    c.ReportsInner c.readIndexEntries.diagnostics := by
  fun_induction readIndexEntries c with
  | case1 | case2 => exact reportsInner_nil _
  | case3 c _ hs entry entries ih =>
    have hpass := passes_readIndexEntry (rest_ne_nil_of_stopsAt_eq_false (Bool.eq_false_iff.2 hs))
    have hentry : c.skipBlank.ReportsInner entry.diagnostics :=
      reportsInner_readIndexEntry (overrun_skipBlank c)
    exact (hentry.append (ih.of_reaches hpass.reaches)).of_reaches (reaches_skipBlank c)

end Indexes

section Tables

theorem reportsInner_readTableEntry {c : Cursor} (h : c.overrun = 0) :
    c.ReportsInner c.readTableEntry.diagnostics := by
  unfold readTableEntry
  split
  · exact reportsInner_nil c
  · split
    · exact reportsInner_nil c
    · split
      · exact (reportsInner_readIndexEntries _).of_reaches
          ((reaches_skipKeyword c).trans ((reaches_skipBlank _).trans (reaches_next _)))
      · exact reportsInner_readColumn h

theorem reportsInner_readTableEntries (c : Cursor) :
    c.ReportsInner c.readTableEntries.diagnostics := by
  fun_induction readTableEntries c with
  | case1 => exact reportsInner_nil _
  | case2 c hs entry entries ih =>
    have hpass := passes_readTableEntry (rest_ne_nil_of_stopsAt_eq_false (Bool.eq_false_iff.2 hs))
    have hentry : c.skipBlank.ReportsInner entry.diagnostics :=
      reportsInner_readTableEntry (overrun_skipBlank c)
    exact (hentry.append (ih.of_reaches hpass.reaches)).of_reaches (reaches_skipBlank c)

theorem reportsInner_skipTableSettings {c : Cursor} (h : c.overrun = 0) :
    c.ReportsInner c.skipTableSettings.diagnostics := by
  unfold skipTableSettings
  split
  · exact reportsInner_report rfl h
  · exact reportsInner_nil c

theorem reportsInner_readTableBody {start c : Cursor} (h : start.overrun = 0)
    (k : start.Reaches c) : start.ReportsInner (start.readTableBody c).diagnostics := by
  have hentries := (reportsInner_readTableEntries c.next).of_reaches (k.trans (reaches_next c))
  unfold readTableBody
  dsimp only
  split
  · split
    · exact hentries
    · exact hentries.append (reportsInner_report rfl h)
  · exact reportsInner_report rfl h

theorem reportsInner_readTable {c : Cursor} (h : c.overrun = 0) :
    c.ReportsInner c.readTable.diagnostics := by
  have hname : c.Reaches c.skipKeyword.skipBlank.readQualifiedName.2.skipBlank.skipAlias :=
    (reaches_skipKeyword c).trans ((reaches_skipBlank _).trans
      ((reaches_readQualifiedName _).trans ((reaches_skipBlank _).trans (reaches_skipAlias _))))
  have hsettings := (reportsInner_skipTableSettings
    (overrun_skipAlias (overrun_skipBlank _))).of_reaches hname
  have hbody := hsettings.append
    (reportsInner_readTableBody h (hname.trans (reaches_skipTableSettings _)))
  unfold readTable
  dsimp only
  split
  · exact hbody.append (reportsInner_report rfl h)
  · exact hbody

end Tables

section Definitions

theorem reportsInner_readEnumEntry {c : Cursor} (h : c.overrun = 0) :
    c.ReportsInner c.readEnumEntry.diagnostics := by
  unfold readEnumEntry
  dsimp only
  split
  · exact reportsInner_nil c
  · split
    · exact reportsInner_report rfl h
    · exact reportsInner_nil c

theorem reportsInner_readEnumEntries (c : Cursor) :
    c.ReportsInner c.readEnumEntries.diagnostics := by
  fun_induction readEnumEntries c with
  | case1 => exact reportsInner_nil _
  | case2 c hs entry entries ih =>
    have hpass := passes_readEnumEntry (rest_ne_nil_of_stopsAt_eq_false (Bool.eq_false_iff.2 hs))
    have hentry : c.skipBlank.ReportsInner entry.diagnostics :=
      reportsInner_readEnumEntry (overrun_skipBlank c)
    exact (hentry.append (ih.of_reaches hpass.reaches)).of_reaches (reaches_skipBlank c)

theorem reportsInner_readEnumeration {c : Cursor} (h : c.overrun = 0) :
    c.ReportsInner c.readEnumeration.diagnostics := by
  unfold readEnumeration readEnumBody
  dsimp only
  split
  · exact (reportsInner_readEnumEntries _).of_reaches
      ((reaches_skipKeyword c).trans ((reaches_skipBlank _).trans
        ((reaches_readQualifiedName _).trans ((reaches_skipBlank _).trans (reaches_next _)))))
  · exact reportsInner_report rfl h

theorem reportsInner_readRelationship {c : Cursor} (h : c.overrun = 0) :
    c.ReportsInner c.readRelationship.diagnostics := by
  unfold readRelationship
  dsimp only
  split
  · exact reportsInner_nil c
  · exact reportsInner_report rfl h
  · exact reportsInner_report rfl h

theorem reportsInner_readDefinition {c : Cursor} (h : c.overrun = 0) (definition : Definition) :
    c.ReportsInner (c.readDefinition definition).1.ownDiagnostics := by
  cases definition with
  | table => exact reportsInner_readTable h
  | relationship => exact reportsInner_readRelationship h
  | enumeration => exact reportsInner_readEnumeration h

end Definitions

section Segments

def Reports (c : Cursor) (segment : Segment) : Prop :=
  (∃ place, c.Reaches place ∧ segment = .stray place.offset) ∨
    c.ReportsInner segment.ownDiagnostics

theorem Reports.of_reaches {c d : Cursor} {segment : Segment} (h : d.Reports segment)
    (k : c.Reaches d) : c.Reports segment := by
  rcases h with ⟨place, hp, rfl⟩ | h
  · exact .inl ⟨place, k.trans hp, rfl⟩
  · exact .inr (h.of_reaches k)

theorem reports_segments (inStray : Bool) (c : Cursor) :
    ∀ segment ∈ c.segments inStray, c.Reports segment := by
  fun_induction segments inStray c with
  | case1 => simp
  | case2 inStray c _ definition hd first ih =>
    have hfirst := (reportsInner_readDefinition (overrun_skipBlank c) definition).of_reaches
      (reaches_skipBlank c)
    refine List.forall_mem_cons.2 ⟨.inr hfirst, fun segment hs => (ih segment hs).of_reaches ?_⟩
    exact (reaches_skipBlank c).trans (passes_readDefinition hd).reaches
  | case3 inStray c _ hd hc ih =>
    refine List.forall_mem_cons.2
      ⟨.inr (reportsInner_nil c), fun segment hs => (ih segment hs).of_reaches ?_⟩
    exact (reaches_skipBlank c).trans (reaches_skipLine _)
  | case4 c _ hd hc rest ih =>
    exact fun segment hs =>
      (ih segment hs).of_reaches ((reaches_skipBlank c).trans (reaches_next _))
  | case5 inStray c _ hd hc rest hs ih =>
    refine List.forall_mem_cons.2 ⟨.inl ⟨_, reaches_skipBlank c, rfl⟩, fun segment hs => ?_⟩
    exact (ih segment hs).of_reaches ((reaches_skipBlank c).trans (reaches_next _))

end Segments

end Cursor

end SchemaText.Diagram
