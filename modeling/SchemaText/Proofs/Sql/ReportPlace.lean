import SchemaText.Proofs.Pattern.Found
import SchemaText.Proofs.Sql.CommentBlank
import SchemaText.Proofs.Sql.Opening
import SchemaText.Proofs.Sql.Report
import SchemaText.Proofs.Text.Split
import SchemaText.Proofs.Text.Trim
/-! Where an SQL text is reported about: at its own characters, and at every statement of it that
defines nothing. -/

namespace SchemaText.Sql

open Pattern
open Diagram (isPlain)
open Text (Stops isBlank isWord trim trimStart)

section Solid

variable {text : List Char} {offset : Nat}

def SolidAt (text : List Char) (offset : Nat) : Prop :=
  ∃ c, text[offset]? = some c ∧ isBlank c = false

theorem SolidAt.of_take {length : Nat} (h : SolidAt (text.take length) offset) :
    SolidAt text offset := by
  obtain ⟨c, hc, hb⟩ := h
  rw [List.getElem?_take] at hc
  split at hc
  · exact ⟨c, hc, hb⟩
  · cases hc

theorem SolidAt.of_drop {start : Nat} (h : SolidAt (text.drop start) offset) :
    SolidAt text (start + offset) := by
  obtain ⟨c, hc, hb⟩ := h
  exact ⟨c, by rwa [List.getElem?_drop] at hc, hb⟩

theorem SolidAt.between (h : SolidAt text offset) (front back : List Char) :
    SolidAt (front ++ (text ++ back)) (front.length + offset) := by
  obtain ⟨c, hc, hb⟩ := h
  have hlt : offset < text.length := (List.getElem?_eq_some_iff.1 hc).1
  refine ⟨c, ?_, hb⟩
  rw [List.getElem?_append_right (Nat.le_add_right _ _), Nat.add_sub_cancel_left,
    List.getElem?_append_left hlt, hc]

theorem solidAt_append_cons (front : List Char) {c : Char} (h : isBlank c = false)
    (rest : List Char) : SolidAt (front ++ c :: rest) front.length :=
  ⟨c, by simp, h⟩

theorem length_sub_trimStart {front : List Char} {c : Char} (h : ∀ d ∈ front, isBlank d)
    (k : isBlank c = false) (rest : List Char) :
    (front ++ c :: rest).length - (trimStart (front ++ c :: rest)).length = front.length := by
  rw [Text.trimStart_append_cons h k, List.length_append, Nat.add_sub_cancel]

theorem solidAt_of_trim_ne_nil (h : trim text ≠ []) :
    SolidAt text (text.length - (trimStart text).length) := by
  obtain ⟨front, c, rest, rfl, hfront, hc⟩ := Text.exists_of_trim_ne_nil h
  rw [length_sub_trimStart hfront hc]
  exact solidAt_append_cons front hc rest

theorem solidAt_located (sep : Char) {parts : List (List Char)} {start : Nat} {part : List Char}
    (h : (start, part) ∈ Text.located 0 parts) (k : SolidAt part offset) :
    SolidAt ([sep].intercalate parts) (start + offset) := by
  obtain ⟨front, back, ht, hs, _⟩ := Text.exists_of_mem_located sep h
  rw [ht, hs, Nat.zero_add]
  exact k.between front back

theorem exists_getElem?_of_solidAt_strip {sql : List Char}
    (h : SolidAt (Comment.strip sql) offset) :
    ∃ c, sql[offset]? = some c ∧ (Comment.strip sql)[offset]? = some c ∧ isBlank c = false := by
  obtain ⟨c, hc, hb⟩ := h
  refine ⟨c, Comment.getElem?_of_strip hc ?_, hc, hb⟩
  rintro rfl
  exact absurd hb (by decide)

end Solid

section Clauses

theorem Clause.cut_ne_nil (nesting : Clause.Nesting) (text : List Char) :
    Clause.cut nesting text ≠ [] := by
  induction text generalizing nesting with
  | nil => exact List.cons_ne_nil _ _
  | cons c text ih =>
    unfold Clause.cut
    split
    · exact List.cons_ne_nil _ _
    · exact fun h => ih _ (List.modifyHead_eq_nil_iff.1 h)

theorem Clause.intercalate_cut (nesting : Clause.Nesting) (text : List Char) :
    [','].intercalate (Clause.cut nesting text) = text := by
  induction text generalizing nesting with
  | nil => rfl
  | cons c text ih =>
    unfold Clause.cut
    split
    · next h =>
      obtain ⟨part, parts, hc⟩ := List.exists_cons_of_ne_nil (Clause.cut_ne_nil nesting text)
      rw [hc, Text.intercalate_cons_cons, ← hc, ih, h.1, List.nil_append]
    · obtain ⟨part, parts, hc⟩ :=
        List.exists_cons_of_ne_nil (Clause.cut_ne_nil (nesting.after c) text)
      have hi := ih (nesting.after c)
      rw [hc, Text.intercalate_cons] at hi
      rw [hc, List.modifyHead_cons, Text.intercalate_cons, List.cons_append, hi]

theorem Clause.mem_of_mem_dropBlankEnd {parts : List (Nat × List Char)} {part : Nat × List Char}
    (h : part ∈ Clause.dropBlankEnd parts) : part ∈ parts := by
  unfold Clause.dropBlankEnd at h
  split at h
  · exact (List.dropLast_sublist parts).subset h
  · exact h

theorem solidAt_of_mem_ofText {body : List Char} {clause : Clause} (h : clause ∈ Clause.ofText body)
    (k : clause.trim.text ≠ []) : SolidAt body clause.trim.offset := by
  obtain ⟨⟨start, part⟩, hp, rfl⟩ := List.mem_map.1 h
  have hs := solidAt_located ',' (Clause.mem_of_mem_dropBlankEnd hp)
    (solidAt_of_trim_ne_nil k)
  rwa [Clause.intercalate_cut] at hs

theorem solidAt_of_mem_draftOf {text : List Char} {p : Pattern} {m : Match}
    (h : m ∈ p.findAll text) {d : Diagnostic} (hd : d ∈ (Progress.draftOf m).2) :
    SolidAt text d.offset := by
  obtain ⟨moved, hm, hne, hr⟩ := Draft.exists_reportsClause_of_mem hd
  obtain ⟨clause, hc, rfl⟩ := List.mem_map.1 hm
  have hbody := solidAt_of_mem_ofText hc hne
  cases hcap : m.capture? "body" with
  | none =>
    rw [Match.text, Match.text?, hcap] at hbody
    obtain ⟨c, hc, _⟩ := hbody
    cases hc
  | some capture =>
    rw [Match.text, Match.text?, hcap] at hbody
    have hrest := rest_of_mem_captures h (List.mem_of_find?_eq_some hcap)
    have hs : SolidAt (text.drop capture.offset) clause.trim.offset := hrest ▸ hbody.of_take
    rw [hr.offset, hcap]
    change SolidAt text (capture.offset + clause.offset + _)
    rw [Nat.add_assoc]
    exact hs.of_drop

end Clauses

section Matches

variable {text : List Char} {m : Match}

theorem solidAt_start {p q : Pattern} {letters : String} (hp : p.Agrees (keyed letters q))
    (hl : letters.toList.all isPlain) (hn : spells letters [] = false) (h : m ∈ p.findAll text) :
    SolidAt text m.start := by
  obtain ⟨s, hs, ho, hm⟩ := exists_spot_of_mem_findAll h
  cases hrest : text.drop m.start with
  | nil =>
    have hf : p.FailsOn [] := hp.failsOn (failsOn_keyed_of_stops hl hn (Text.stops_nil _))
    rw [(hf s (by rw [hs.rest, ho, hrest])).matchAt] at hm
    cases hm
  | cons c rest =>
    by_cases hc : isWord c
    · have hsolid : SolidAt (text.drop m.start) 0 :=
        ⟨c, by rw [hrest]; rfl, Text.isBlank_eq_false_of_isWord hc⟩
      exact hsolid.of_drop
    · have hf : p.FailsOn (c :: rest) :=
        hp.failsOn (failsOn_keyed_of_stops hl hn (Text.stops_cons.2 (by simpa using hc)))
      rw [(hf s (by rw [hs.rest, ho, hrest])).matchAt] at hm
      cases hm

theorem solidAt_start_createTable (h : m ∈ Statement.createTable.findAll text) :
    SolidAt text m.start :=
  solidAt_start Statement.agrees_createTable (by decide) rfl h

theorem solidAt_start_createIndex (h : m ∈ Statement.createIndex.findAll text) :
    SolidAt text m.start :=
  solidAt_start Statement.agrees_createIndex (by decide) rfl h

theorem solidAt_start_addForeignKey (h : m ∈ Statement.addForeignKey.findAll text) :
    SolidAt text m.start :=
  solidAt_start Statement.agrees_addForeignKey (by decide) rfl h

end Matches

section Progress

variable {text : List Char} {m : Match} {progress : Progress}

def Progress.Placed (text : List Char) (progress : Progress) : Prop :=
  ∀ d ∈ progress.diagnostics, SolidAt text d.offset ∧ d.construct ≠ .statement

theorem Progress.Placed.report (h : progress.Placed text) {diagnostics : List Diagnostic}
    (k : ∀ d ∈ diagnostics, SolidAt text d.offset ∧ d.construct ≠ .statement) :
    (progress.report diagnostics).Placed text := by
  intro d hd
  rcases List.mem_append.1 hd with hd | hd
  · exact h d hd
  · exact k d hd

theorem ReportsClause.construct_ne {offset : Nat} {d : Diagnostic} (h : ReportsClause offset d) :
    d.construct ≠ .statement := by
  rcases h.construct with h | h <;> simp [h]

theorem Progress.Placed.addTable (h : progress.Placed text)
    (hm : m ∈ Statement.createTable.findAll text) : (progress.addTable m).Placed text := by
  have hstart := solidAt_start_createTable hm
  have hbody : (progress.report (Progress.draftOf m).2).Placed text := by
    refine h.report fun d hd => ⟨solidAt_of_mem_draftOf hm hd, ?_⟩
    obtain ⟨_, _, _, hr⟩ := Draft.exists_reportsClause_of_mem hd
    exact hr.construct_ne
  unfold Progress.addTable
  dsimp only
  split
  · exact hbody.report (List.forall_mem_singleton.2 ⟨hstart, nofun⟩)
  · refine hbody.report ?_
    split
    · exact List.forall_mem_singleton.2 ⟨hstart, nofun⟩
    · exact nofun

theorem Progress.Placed.addIndex (h : progress.Placed text)
    (hm : m ∈ Statement.createIndex.findAll text) : (progress.addIndex m).Placed text := by
  unfold Progress.addIndex
  dsimp only
  split
  · exact h
  · exact h.report (List.forall_mem_singleton.2 ⟨solidAt_start_createIndex hm, nofun⟩)

theorem Progress.Placed.addForeignKey (h : progress.Placed text)
    (hm : m ∈ Statement.addForeignKey.findAll text) : (progress.addForeignKey m).Placed text := by
  refine Progress.Placed.report h fun d hd => ?_
  have hr := reportsClause_foreignKeys _ _ _ _ _ d hd
  exact ⟨hr.offset ▸ solidAt_start_addForeignKey hm, hr.construct_ne⟩

theorem placed_progress (text : List Char) : (Statements.ofText text).progress.Placed text := by
  have htables : ((Statements.ofText text).tables.foldl Progress.addTable {}).Placed text :=
    List.foldlRecOn _ _ nofun fun _ hp _ hm => hp.addTable hm
  have hindexes := List.foldlRecOn (Statements.ofText text).indexes Progress.addIndex htables
    fun _ hp _ hm => hp.addIndex hm
  exact List.foldlRecOn _ _ hindexes fun _ hp _ hm => hp.addForeignKey hm

end Progress

end SchemaText.Sql
