import SchemaText.Proofs.Sql.ColumnHead
import SchemaText.Proofs.Sql.LiteralSearch
/-! Column clauses that differ in the content of one literal, and what is read from both of them. -/

namespace SchemaText.Sql

open Pattern
open Text (Stops stops_nil stops_cons isBlank isWord)

namespace ColumnClause

def ValueOption.forget (option : ValueOption) (column : Column) : Column :=
  match option with
  | default => { column with default := none }
  | comment => { column with note := none }

end ColumnClause

/-- What is read from a clause but for the value of the option. -/
def ColumnReading.without (reading : ColumnReading) (option : ColumnClause.ValueOption) :
    ColumnReading :=
  { reading with column := reading.column.map option.forget }

namespace ColumnClause

open Sql.Core (textsOf text_eq)

namespace Frame

section Clauses

variable {frame : Frame} {first second front : List Char} {head : Head}

theorem exists_fill (frame : Frame) :
    ∃ c, ∀ content, ∃ rest, frame.fill content = c :: rest := by
  obtain ⟨c, rest, hc⟩ : ∃ c rest, frame.before ++ frame.key = c :: rest := by
    obtain ⟨c, rest, hk, _⟩ := frame.exists_key
    cases hb : frame.before with
    | nil => exact ⟨c, rest, hk⟩
    | cons d before => exact ⟨d, before ++ frame.key, by rw [List.cons_append]⟩
  exact ⟨c, fun content => ⟨_, by rw [fill, hc, List.cons_append]⟩⟩

theorem stops_fill {accepts : Char → Bool} (h : Stops accepts (front ++ frame.fill first)) :
    Stops accepts (front ++ frame.fill second) := by
  obtain ⟨c, hfill⟩ := frame.exists_fill
  obtain ⟨rest, hf⟩ := hfill first
  obtain ⟨rest', hs⟩ := hfill second
  rw [hf] at h
  rw [hs]
  cases front with
  | nil => exact stops_cons.2 (stops_cons.1 h)
  | cons d front => exact stops_cons.2 (stops_cons.1 h)

theorem mem_of_fill (first : List Char) {more : List Char} (h : frame.fill second = '(' :: more) :
    ∃ more, frame.fill first = '(' :: more ∧ ')' ∈ more := by
  cases hb : frame.before with
  | nil =>
    obtain ⟨c, rest, hk, hc⟩ := frame.exists_key
    rw [fill, hb, hk] at h
    obtain rfl : c = '(' := (List.cons.inj h).1
    exact absurd (isWord_of_mem_keyword hc) (by decide)
  | cons d before =>
    rw [fill, hb] at h
    obtain rfl : d = '(' := (List.cons.inj h).1
    refine ⟨before ++ frame.key ++ '\'' :: (first ++ '\'' :: frame.after), ?_, ?_⟩
    · rw [fill, hb]
      rfl
    · have hclear := frame.clear
      rw [hb] at hclear
      cases hclear with
      | plain _ k => exact List.mem_append_left _ (List.mem_append_left _ (k rfl))
      | quotation hm => cases hm

theorem precedes_fill (h : head.Precedes (frame.fill first)) :
    head.Precedes (frame.fill second) where
  name := h.name
  space_ne := h.space_ne
  space := h.space
  word_ne := h.word_ne
  word := h.word
  stops := by
    rw [← List.append_assoc]
    exact stops_fill (by rw [List.append_assoc]; exact h.stops)
  arguments := by
    have hargs := h.arguments
    generalize head.arguments = arguments at hargs
    cases hargs with
    | none hno =>
      refine .none fun more he _ => ?_
      cases hg : head.gap with
      | nil =>
        rw [hg, List.nil_append] at he hno
        obtain ⟨more', hf, hin⟩ := mem_of_fill first he
        exact hno more' hf hin
      | cons c gap =>
        rw [hg] at he
        obtain rfl : c = '(' := (List.cons.inj he).1
        exact absurd (h.gap '(' (by simp [hg])) (by decide)
    | list hn => exact .list hn _
  gap := h.gap
  tail := by
    have hstops : Stops isBlank ([] ++ frame.fill first) := h.tail
    exact stops_fill hstops

end Clauses

end Frame

section Found

open ColumnClause.Frame (found)

theorem isSome_search (rule : Pattern) (tail : List Char) :
    (rule.search tail).isSome = (found rule tail).isSome :=
  Option.isSome_map.symm

theorem defaultOf_eq (tail : List Char) :
    defaultOf tail = (found default tail).map fun texts =>
      match texts.lookup "1" with
      | some literal => Literal.unescape literal
      | none => Literal.unquote ((texts.lookup "token").getD []) := by
  unfold defaultOf found
  cases default.search tail with
  | none => rfl
  | some m =>
    simp only [Option.map_some, ← Match.text?_eq_lookup]
    rfl

theorem noteOf_eq (tail : List Char) :
    (comment.search tail).map (·.text "note") =
      (found comment tail).map fun texts => (texts.lookup "note").getD [] := by
  unfold found
  cases comment.search tail with
  | none => rfl
  | some m =>
    simp only [Option.map_some, ← Match.text?_eq_lookup]
    rfl

theorem referencesOf_eq (table : String) (offset : Nat) (m : Match) :
    referencesOf table offset m = ((found reference (m.text "tail")).map fun texts =>
      foreignKeys table (m.text "name") ((texts.lookup "target").getD [])
        ((texts.lookup "target_columns").getD []) offset).getD ([], []) := by
  unfold referencesOf found
  cases reference.search (m.text "tail") with
  | none => rfl
  | some r =>
    simp only [Option.map_some, Option.getD_some, ← Match.text?_eq_lookup]
    rfl

end Found

section Inert

theorem clear_of_plain {option : ValueOption} {text : List Char}
    (h : text.all fun c => closing? c = none && c ≠ '(')
    (e : text.getLast?.all fun c => !isWord c) : Clear option text := by
  induction text with
  | nil => exact .nil
  | cons c rest ih =>
    obtain ⟨hc, hrest⟩ := Bool.and_eq_true_iff.1 (List.all_cons.symm.trans h)
    simp only [Bool.and_eq_true, decide_eq_true_eq] at hc
    refine .plain hc.1 (fun hp => absurd hp hc.2) (fun hn => ?_) (ih hrest ?_)
    · simpa [hn] using e
    · cases rest with
      | nil => rfl
      | cons d rest => simpa [List.getLast?_cons_cons] using e

end Inert

section Readings

open ColumnClause.Frame (found)

variable {frame : Frame} {first second front : List Char} {m m' : Match} {head : Head}

theorem forget_columnOf (hf : frame.IsInert first) (hs : frame.IsInert second)
    (hm : textsOf m = [("tail", frame.fill first), ("type", head.type), ("name", head.name)])
    (hm' : textsOf m' = [("tail", frame.fill second), ("type", head.type), ("name", head.name)]) :
    frame.option.forget (columnOf m) = frame.option.forget (columnOf m') := by
  have htail : m.text "tail" = frame.fill first := text_eq hm "tail"
  have htype : m.text "type" = head.type := text_eq hm "type"
  have hname : m.text "name" = head.name := text_eq hm "name"
  have htail' : m'.text "tail" = frame.fill second := text_eq hm' "tail"
  have htype' : m'.text "type" = head.type := text_eq hm' "type"
  have hname' : m'.text "name" = head.name := text_eq hm' "name"
  have hflag (rule : Pattern) (h : rule ∈ flagRules) :
      (rule.search (frame.fill first)).isSome = (rule.search (frame.fill second)).isSome := by
    rw [isSome_search, isSome_search, Frame.found_flag hf hs h]
  have hvalue {letters : String} {rule : Pattern} (h : (letters, rule) ∈ frame.option.otherRules) :=
    Frame.found_value hf hs h
  have hkey := hflag primaryKey (by simp [flagRules])
  have hnull := hflag notNull (by simp [flagRules])
  have hunique := hflag unique (by simp [flagRules])
  have hauto := hflag autoIncrement (by simp [flagRules])
  cases ho : frame.option with
  | default =>
    rw [ho] at hvalue
    have hnote : found comment (frame.fill first) = found comment (frame.fill second) :=
      hvalue List.mem_cons_self
    simp only [ValueOption.forget, columnOf, htail, htype, hname, htail', htype', hname', hkey,
      hnull, hunique, hauto, noteOf_eq, hnote]
  | comment =>
    rw [ho] at hvalue
    have hdefault : found default (frame.fill first) = found default (frame.fill second) :=
      hvalue List.mem_cons_self
    simp only [ValueOption.forget, columnOf, htail, htype, hname, htail', htype', hname', hkey,
      hnull, hunique, hauto, defaultOf_eq, hdefault]

theorem referencesOf_of_textsOf (hf : frame.IsInert first) (hs : frame.IsInert second)
    (hm : textsOf m = [("tail", frame.fill first), ("type", head.type), ("name", head.name)])
    (hm' : textsOf m' = [("tail", frame.fill second), ("type", head.type), ("name", head.name)])
    (table : String) (offset : Nat) :
    referencesOf table offset m = referencesOf table offset m' := by
  have htail : m.text "tail" = frame.fill first := text_eq hm "tail"
  have hname : m.text "name" = head.name := text_eq hm "name"
  have htail' : m'.text "tail" = frame.fill second := text_eq hm' "tail"
  have hname' : m'.text "name" = head.name := text_eq hm' "name"
  have hother : ("REFERENCES", reference) ∈ frame.option.otherRules := by
    cases frame.option <;> exact List.mem_cons_of_mem _ List.mem_cons_self
  have hfound := Frame.found_value hf hs hother
  rw [referencesOf_eq, referencesOf_eq, htail, htail', hname, hname', hfound]

/-- A literal is opaque if nothing that a rule looks for starts in its content: another such content
changes only the value of the option that the literal is for. -/
theorem without_readColumn_fill (frame : Frame) (table : String) (offset : Nat)
    (h : (definition.matchStart (front ++ frame.fill first)).map (·.text "tail") =
      some (frame.fill first)) (hf : frame.IsInert first) (hs : frame.IsInert second) :
    (readColumn table ⟨offset, front ++ frame.fill first⟩).without frame.option =
      (readColumn table ⟨offset, front ++ frame.fill second⟩).without frame.option := by
  obtain ⟨m, hm, htail⟩ := Option.map_eq_some_iff.1 h
  obtain ⟨head, tail, htext, hprecedes, hx⟩ := exists_head hm
  obtain rfl : frame.fill first = tail := htail.symm.trans (text_eq hx "tail")
  obtain rfl := List.append_cancel_right htext
  have hprecedes' : head.Precedes (frame.fill second) := Frame.precedes_fill hprecedes
  obtain ⟨m', hm', hx'⟩ := hprecedes'.exists_matchStart
  have hcolumn := forget_columnOf hf hs hx hx'
  have hreferences := referencesOf_of_textsOf hf hs hx hx' table offset
  simp only [readColumn, hm, hm', ColumnReading.without, hreferences, Option.map_some, hcolumn]

def defaultFrame : Frame where
  option := .default
  before := "NOT NULL ".toList
  keyword := "default".toList
  space := [' ']
  after := " COMMENT 'b'".toList
  clear := clear_of_plain (by decide) (by decide +kernel)
  spelled := by decide
  space_ne := List.cons_ne_nil _ _
  blank := by simpa using Text.isBlank_space

theorem without_readColumn_defaultFrame :
    (readColumn "t" ⟨0, "a text ".toList ++ defaultFrame.fill "x".toList⟩).without .default =
      (readColumn "t" ⟨0, "a text ".toList ++
        defaultFrame.fill "UNIQUELY, no COMMENT on REFERENCES u".toList⟩).without .default :=
  without_readColumn_fill defaultFrame "t" 0 (by decide +kernel) (by decide +kernel)
    (by decide +kernel)

/-- The words of a flag in the content of a literal set the flag. -/
theorem unique_of_literal :
    (readColumn "t" ⟨0, "a text ".toList ++ defaultFrame.fill "UNIQUE".toList⟩).without .default ≠
      (readColumn "t" ⟨0, "a text ".toList ++ defaultFrame.fill "x".toList⟩).without .default := by
  decide +kernel

end Readings

end ColumnClause

end SchemaText.Sql
