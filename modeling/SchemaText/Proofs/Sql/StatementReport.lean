import SchemaText.Proofs.Sql.ReportPlace
/-! The statements of an SQL text: each of them starts in a match of a statement pattern, or it is
reported where it starts. -/

namespace SchemaText.Sql

open Pattern
open Text (isBlank trim trimStart)

section Statements

variable {text : List Char} {start : Nat} {stretch : List Char}

/-- A statement of a text: a stretch between semicolons, or between them and the ends of the text.
It is not blank, and its first character that is not blank stands at `start`. -/
structure StatementAt (text : List Char) (start : Nat) (stretch : List Char) : Prop where
  undivided : ';' ∉ stretch
  enclosed : ∃ front back, text = front ++ (stretch ++ back) ∧
    (front = [] ∨ front.getLast? = some ';') ∧ (back = [] ∨ back.head? = some ';') ∧
    start = front.length + (stretch.takeWhile isBlank).length
  solid : ∃ c ∈ stretch, isBlank c = false

/-- The stretches between the semicolons of a text with their offsets. -/
def stretches (text : List Char) : List (Nat × List Char) :=
  Text.located 0 (Text.split (· == ';') text)

def startOf (stretch : Nat × List Char) : Nat :=
  stretch.1 + (stretch.2.length - (trimStart stretch.2).length)

theorem length_takeWhile_isBlank (cs : List Char) :
    (cs.takeWhile isBlank).length = cs.length - (trimStart cs).length := by
  have h := congrArg List.length (List.takeWhile_append_dropWhile (p := isBlank) (l := cs))
  rw [List.length_append] at h
  unfold trimStart
  omega

theorem trim_ne_nil_iff {cs : List Char} : trim cs ≠ [] ↔ ∃ c ∈ cs, isBlank c = false := by
  rw [Ne, Text.trim_eq_nil_iff]
  simp

theorem statementAt_iff :
    StatementAt text start stretch ↔
      ∃ offset, (offset, stretch) ∈ stretches text ∧ trim stretch ≠ [] ∧
        startOf (offset, stretch) = start := by
  constructor
  · rintro ⟨hdivide, ⟨front, back, rfl, hfront, hback, rfl⟩, hsolid⟩
    have hmem := Text.mem_located_split hdivide hfront hback 0
    rw [Nat.zero_add] at hmem
    exact ⟨front.length, hmem, trim_ne_nil_iff.2 hsolid, by rw [startOf, length_takeWhile_isBlank]⟩
  · rintro ⟨offset, hmem, hne, rfl⟩
    obtain ⟨front, back, ht, rfl, hfront, hback⟩ := Text.exists_of_mem_located ';' hmem
    rw [Text.intercalate_split] at ht
    refine ⟨fun hin => ?_, ⟨front, back, ht, hfront, hback, ?_⟩, trim_ne_nil_iff.1 hne⟩
    · simpa using Text.not_separates_of_mem_split (Text.mem_of_mem_located hmem) ';' hin
    · rw [startOf, length_takeWhile_isBlank, Nat.zero_add]

theorem pairwise_stretches (text : List Char) :
    (stretches text).Pairwise fun a b => startOf a < startOf b := by
  refine (Text.pairwise_located 0 _).imp fun {a b} h => ?_
  unfold startOf
  omega

theorem solidAt_startOf {stretch : Nat × List Char} (h : stretch ∈ stretches text)
    (k : trim stretch.2 ≠ []) : SolidAt text (startOf stretch) := by
  have hs := solidAt_located ';' h (solidAt_of_trim_ne_nil k)
  rwa [Text.intercalate_split] at hs

end Statements

section Recognition

def statementPatterns : List Pattern :=
  [Statement.createTable, Statement.createIndex, Statement.addForeignKey, Statement.createEnum]

/-- A match of a statement pattern takes up the character at an offset. -/
def Recognised (text : List Char) (offset : Nat) : Prop :=
  ∃ p ∈ statementPatterns, ∃ m ∈ p.findAll text, m.start ≤ offset ∧ offset < m.stop

theorem isCovered_iff {text : List Char} {offset : Nat} :
    isCovered (Statements.ofText text).spans offset ↔ Recognised text offset := by
  simp only [isCovered, Statements.spans, Statements.ofText, Recognised, statementPatterns,
    List.any_map, List.any_eq_true, List.mem_append, List.mem_cons, List.not_mem_nil, or_false,
    Function.comp_apply, Bool.and_eq_true, decide_eq_true_eq]
  constructor
  · rintro ⟨m, ((hm | hm) | hm) | hm, hk⟩
    · exact ⟨_, .inl rfl, m, hm, hk⟩
    · exact ⟨_, .inr (.inl rfl), m, hm, hk⟩
    · exact ⟨_, .inr (.inr (.inl rfl)), m, hm, hk⟩
    · exact ⟨_, .inr (.inr (.inr rfl)), m, hm, hk⟩
  · rintro ⟨p, rfl | rfl | rfl | rfl, m, hm, hk⟩
    · exact ⟨m, .inl (.inl (.inl hm)), hk⟩
    · exact ⟨m, .inl (.inl (.inr hm)), hk⟩
    · exact ⟨m, .inl (.inr hm), hk⟩
    · exact ⟨m, .inr hm, hk⟩

end Recognition

section Reports

variable {covered : List (Nat × Nat)} {text : List Char} {d : Diagnostic}

def statementReports (reading : Reading) : List Diagnostic :=
  reading.diagnostics.filter (·.construct == .statement)

def unrecognised (start : Nat) (stretch : List Char) : Diagnostic :=
  (Fault.statementUnrecognised
    (String.ofList ([' '].intercalate ((Text.words stretch).take 3)))).diagnostic start

theorem reportStretch_eq (covered : List (Nat × Nat)) (stretch : Nat × List Char) :
    reportStretch covered stretch =
      if trim stretch.2 = [] ∨ isCovered covered (startOf stretch) then []
      else [unrecognised (startOf stretch) stretch.2] := rfl

theorem eq_of_mem_reportStretch {stretch : Nat × List Char}
    (h : d ∈ reportStretch covered stretch) :
    d = unrecognised (startOf stretch) stretch.2 ∧ trim stretch.2 ≠ [] := by
  rw [reportStretch_eq] at h
  split at h
  · cases h
  · next hk => exact ⟨List.mem_singleton.1 h, fun he => hk (.inl he)⟩

theorem exists_of_mem_reportUnrecognised (h : d ∈ reportUnrecognised covered text) :
    ∃ stretch ∈ stretches text, trim stretch.2 ≠ [] ∧
      d = unrecognised (startOf stretch) stretch.2 := by
  obtain ⟨stretch, hs, hd⟩ := List.mem_flatMap.1 h
  obtain ⟨he, hne⟩ := eq_of_mem_reportStretch hd
  exact ⟨stretch, hs, hne, he⟩

theorem pairwise_reportUnrecognised (covered : List (Nat × Nat)) (text : List Char) :
    (reportUnrecognised covered text).Pairwise fun a b => a.offset ≤ b.offset := by
  refine List.pairwise_flatMap.2 ⟨fun stretch _ => ?_, (pairwise_stretches text).imp ?_⟩
  · rw [reportStretch_eq]
    split
    · exact .nil
    · exact List.pairwise_singleton _ _
  · intro a b hlt x hx y hy
    rw [(eq_of_mem_reportStretch hx).1, (eq_of_mem_reportStretch hy).1]
    exact Nat.le_of_lt hlt

theorem filter_flatMap_reportStretch {found : List (Nat × List Char)}
    (h : found.Pairwise fun a b => startOf a < startOf b) {stretch : Nat × List Char}
    (k : stretch ∈ found) :
    (found.flatMap (reportStretch covered)).filter (·.offset == startOf stretch) =
      reportStretch covered stretch := by
  have hnone (other : Nat × List Char) (hne : startOf other ≠ startOf stretch) :
      (reportStretch covered other).filter (·.offset == startOf stretch) = [] := by
    rw [List.filter_eq_nil_iff]
    intro d hd
    rw [(eq_of_mem_reportStretch hd).1, beq_iff_eq]
    exact hne
  have hall : (reportStretch covered stretch).filter (·.offset == startOf stretch) =
      reportStretch covered stretch := by
    rw [List.filter_eq_self]
    intro d hd
    rw [(eq_of_mem_reportStretch hd).1]
    exact beq_self_eq_true _
  induction found with
  | nil => cases k
  | cons first found ih =>
    obtain ⟨hfirst, hrest⟩ := List.pairwise_cons.1 h
    rw [List.flatMap_cons, List.filter_append]
    rcases List.mem_cons.1 k with rfl | k
    · have hlater : (found.flatMap (reportStretch covered)).filter
          (·.offset == startOf stretch) = [] := by
        rw [List.filter_flatMap, List.flatMap_eq_nil_iff]
        exact fun other ho => hnone other (Nat.ne_of_gt (hfirst other ho))
      rw [hall, hlater, List.append_nil]
    · rw [hnone first (Nat.ne_of_lt (hfirst stretch k)), List.nil_append, ih hrest k]

theorem statementReports_read (sql : String) :
    statementReports (read sql) =
      reportUnrecognised (Statements.ofText (Comment.strip sql.toList)).spans
        (Comment.strip sql.toList) := by
  generalize htext : Comment.strip sql.toList = text
  have hprogress : (Statements.ofText text).progress.diagnostics.filter
      (·.construct == .statement) = [] := by
    rw [List.filter_eq_nil_iff]
    intro d hd
    simpa using (placed_progress text d hd).2
  have hreports : (reportUnrecognised (Statements.ofText text).spans text).filter
      (·.construct == .statement) = reportUnrecognised (Statements.ofText text).spans text := by
    rw [List.filter_eq_self]
    intro d hd
    obtain ⟨stretch, _, _, rfl⟩ := exists_of_mem_reportUnrecognised hd
    rfl
  have hall : ((Statements.ofText text).progress.diagnostics ++
      reportUnrecognised (Statements.ofText text).spans text).filter (·.construct == .statement) =
        reportUnrecognised (Statements.ofText text).spans text := by
    rw [List.filter_append, hprogress, hreports, List.nil_append]
  have hsorted := filter_sortDiagnostics
    (hall.symm ▸ pairwise_reportUnrecognised (Statements.ofText text).spans text)
  unfold statementReports read readStripped
  rw [htext]
  exact hsorted.trans hall

end Reports

/-- What the reports of a reading say about the text. Each statement is recognised where it starts,
or the one report of its kind is made there. -/
structure AccountsFor (sql : String) (reading : Reading) : Prop where
  ordered : reading.diagnostics.Pairwise fun a b => a.offset ≤ b.offset
  placed : ∀ d ∈ reading.diagnostics, ∃ c, sql.toList[d.offset]? = some c ∧
    (Comment.strip sql.toList)[d.offset]? = some c ∧ isBlank c = false
  recognised : ∀ start stretch, StatementAt (Comment.strip sql.toList) start stretch →
    Recognised (Comment.strip sql.toList) start →
      (statementReports reading).filter (·.offset == start) = []
  unrecognised : ∀ start stretch, StatementAt (Comment.strip sql.toList) start stretch →
    ¬ Recognised (Comment.strip sql.toList) start →
      (statementReports reading).filter (·.offset == start) = [unrecognised start stretch]
  statements : ∀ d ∈ statementReports reading, ∃ stretch,
    StatementAt (Comment.strip sql.toList) d.offset stretch
  accepted : ∀ schema, reading.accept true = .ok schema →
    ∀ start stretch, StatementAt (Comment.strip sql.toList) start stretch →
      Recognised (Comment.strip sql.toList) start

theorem filter_statementReports {sql : String} {start : Nat} {stretch : List Char}
    (h : StatementAt (Comment.strip sql.toList) start stretch) :
    (statementReports (read sql)).filter (·.offset == start) =
      if isCovered (Statements.ofText (Comment.strip sql.toList)).spans start then []
      else [unrecognised start stretch] := by
  obtain ⟨offset, hmem, hne, rfl⟩ := statementAt_iff.1 h
  rw [statementReports_read]
  refine (filter_flatMap_reportStretch (pairwise_stretches _) hmem).trans ?_
  rw [reportStretch_eq]
  simp only [hne, false_or]

theorem accountsFor_read (sql : String) : AccountsFor sql (read sql) := by
  refine ⟨pairwise_sortDiagnostics _, fun d hd => ?_, fun start stretch h hr => ?_,
    fun start stretch h hr => ?_, fun d hd => ?_, fun schema hs start stretch h => ?_⟩
  · rcases List.mem_append.1 (mem_sortDiagnostics.1 hd) with hd | hd
    · exact exists_getElem?_of_solidAt_strip (placed_progress _ d hd).1
    · obtain ⟨stretch, hm, hne, rfl⟩ := exists_of_mem_reportUnrecognised hd
      exact exists_getElem?_of_solidAt_strip (solidAt_startOf hm hne)
  · rw [filter_statementReports h, if_pos (isCovered_iff.2 hr)]
  · rw [filter_statementReports h, if_neg (mt isCovered_iff.1 hr)]
  · rw [statementReports_read] at hd
    obtain ⟨stretch, hm, hne, rfl⟩ := exists_of_mem_reportUnrecognised hd
    exact ⟨stretch.2, statementAt_iff.2 ⟨stretch.1, hm, hne, rfl⟩⟩
  · -- Nothing was reported, and a statement that is not recognised would have been.
    by_contra hr
    have hreport := filter_statementReports h
    rw [if_neg (mt isCovered_iff.1 hr), statementReports,
      (Reading.accept_strict_eq_ok_iff.1 hs).1] at hreport
    cases hreport

end SchemaText.Sql
