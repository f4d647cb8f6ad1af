import SchemaText.Sql.Clause
/-! Texts whose parentheses and quotations are closed, and texts that end outside of both: exactly
these lead the scanner of clauses to top level. -/

namespace SchemaText.Sql.Clause

section Grammar

def quotationMarks : List Char :=
  ['\'', '"', '`']

def IsOrdinary (c : Char) : Prop :=
  c ∉ quotationMarks ∧ c ≠ '(' ∧ c ≠ ')'

inductive Balanced : List Char → Prop
  | nil : Balanced []
  | ordinary {c : Char} {text : List Char} (hc : IsOrdinary c) (h : Balanced text) :
    Balanced (c :: text)
  | quotation {mark : Char} {inner text : List Char} (hm : mark ∈ quotationMarks)
    (hn : mark ∉ inner) (h : Balanced text) : Balanced (mark :: (inner ++ mark :: text))
  | group {inner text : List Char} (hi : Balanced inner) (h : Balanced text) :
    Balanced ('(' :: (inner ++ ')' :: text))

inductive EndsAtTop : List Char → Prop
  | balanced {text : List Char} (h : Balanced text) : EndsAtTop text
  | stray {front text : List Char} (hf : Balanced front) (h : EndsAtTop text) :
    EndsAtTop (front ++ ')' :: text)

end Grammar

/-- The nesting behind a text. -/
def Nesting.behind (nesting : Nesting) (text : List Char) : Nesting :=
  text.foldl Nesting.after nesting

section Scanner

variable {depth : Nat} {nesting : Nesting} {text : List Char} {c mark : Char}

theorem Nesting.eq_of_isTop (h : nesting.isTop) : nesting = {} := by
  obtain ⟨depth, mark⟩ := nesting
  obtain ⟨hd, hm⟩ := Bool.and_eq_true_iff.1 h
  obtain rfl : depth = 0 := beq_iff_eq.1 hd
  obtain rfl : mark = none := Option.isNone_iff_eq_none.1 hm
  rfl

theorem isMark_iff : isMark c ↔ c ∈ quotationMarks := by
  simp [isMark, quotationMarks, or_assoc]

theorem IsOrdinary.after (h : IsOrdinary c) (depth : Nat) :
    Nesting.after { depth := depth } c = { depth := depth } := by
  have hm : ¬ isMark c := fun k => h.1 (isMark_iff.1 k)
  simp [Nesting.after, hm, h.2.1, h.2.2]

theorem behind_append (nesting : Nesting) (xs ys : List Char) :
    nesting.behind (xs ++ ys) = (nesting.behind xs).behind ys :=
  List.foldl_append

theorem after_mark (hm : mark ∈ quotationMarks) (depth : Nat) :
    Nesting.after { depth := depth } mark = { depth := depth, mark := some mark } := by
  simp [Nesting.after, isMark_iff.2 hm]

theorem after_same (depth : Nat) (mark : Char) :
    Nesting.after { depth := depth, mark := some mark } mark = { depth := depth } :=
  if_pos rfl

theorem after_other (h : c ≠ mark) (depth : Nat) :
    Nesting.after { depth := depth, mark := some mark } c =
      { depth := depth, mark := some mark } :=
  if_neg h

theorem behind_quotation {inner : List Char} (hm : mark ∈ quotationMarks) (hn : mark ∉ inner)
    (depth : Nat) (text : List Char) :
    Nesting.behind { depth := depth } (mark :: (inner ++ mark :: text)) =
      Nesting.behind { depth := depth } text := by
  have hinner : Nesting.behind { depth := depth, mark := some mark } inner =
      { depth := depth, mark := some mark } := by
    induction inner with
    | nil => rfl
    | cons c inner ih =>
      obtain ⟨hc, hn⟩ := not_or.1 (mt List.mem_cons.2 hn)
      change Nesting.behind (Nesting.after _ c) inner = _
      rw [after_other (Ne.symm hc), ih hn]
  change Nesting.behind (Nesting.after _ mark) (inner ++ mark :: text) = _
  rw [after_mark hm, behind_append, hinner]
  change Nesting.behind (Nesting.after _ mark) text = _
  rw [after_same]

theorem Balanced.behind_eq (h : Balanced text) (depth : Nat) :
    Nesting.behind { depth := depth } text = { depth := depth } := by
  induction h generalizing depth with
  | nil => rfl
  | ordinary hc _ ih =>
    change Nesting.behind (Nesting.after _ _) _ = _
    rw [hc.after, ih]
  | quotation hm hn _ ih => rw [behind_quotation hm hn, ih]
  | group _ _ hi ih =>
    change Nesting.behind { depth := depth + 1 } (_ ++ ')' :: _) = _
    rw [behind_append, hi]
    change Nesting.behind { depth := depth } _ = _
    rw [ih]

theorem EndsAtTop.behind_eq (h : EndsAtTop text) : Nesting.behind {} text = {} := by
  induction h with
  | balanced h => exact h.behind_eq 0
  | stray hf _ ih =>
    rw [behind_append, hf.behind_eq 0]
    exact ih

inductive Closes : Nat → List Char → Prop
  | top {text : List Char} (h : EndsAtTop text) : Closes 0 text
  | close {depth : Nat} {front text : List Char} (hf : Balanced front) (h : Closes depth text) :
    Closes (depth + 1) (front ++ ')' :: text)

theorem Closes.append {front : List Char} (h : Closes depth text)
    (k : ∀ more, Balanced more → Balanced (front ++ more)) : Closes depth (front ++ text) := by
  cases h with
  | top h =>
    refine .top ?_
    cases h with
    | balanced h => exact .balanced (k _ h)
    | stray hf h =>
      rw [← List.append_assoc]
      exact .stray (k _ hf) h
  | close hf h =>
    rw [← List.append_assoc]
    exact .close (k _ hf) h

theorem Closes.quotation {inner : List Char} (hm : mark ∈ quotationMarks) (hn : mark ∉ inner)
    (h : Closes depth text) : Closes depth (mark :: (inner ++ mark :: text)) := by
  have hfront (more : List Char) (k : Balanced more) :
      Balanced (mark :: (inner ++ [mark]) ++ more) := by
    simpa using Balanced.quotation hm hn k
  simpa using h.append hfront

theorem Closes.group {inner : List Char} (hi : Balanced inner) (h : Closes depth text) :
    Closes depth ('(' :: (inner ++ ')' :: text)) := by
  have hfront (more : List Char) (k : Balanced more) :
      Balanced ('(' :: (inner ++ [')']) ++ more) := by
    simpa using Balanced.group hi k
  simpa using h.append hfront

theorem Closes.ordinary (hc : IsOrdinary c) (h : Closes depth text) : Closes depth (c :: text) := by
  have hfront (more : List Char) (k : Balanced more) : Balanced ([c] ++ more) := .ordinary hc k
  exact h.append hfront

/-- The texts that lead the scanner from a nesting to top level. -/
inductive LeadsOut : Nesting → List Char → Prop
  | outside {depth : Nat} {text : List Char} (h : Closes depth text) :
    LeadsOut { depth := depth } text
  | inside {depth : Nat} {mark : Char} {inner text : List Char} (hn : mark ∉ inner)
    (h : Closes depth text) : LeadsOut { depth := depth, mark := some mark } (inner ++ mark :: text)

theorem LeadsOut.before_quoted (h : LeadsOut (Nesting.after { depth := depth, mark := some mark } c)
    text) : LeadsOut { depth := depth, mark := some mark } (c :: text) := by
  by_cases hc : c = mark
  · subst hc
    rw [after_same] at h
    cases h with
    | outside h =>
      have hn : c ∉ ([] : List Char) := List.not_mem_nil
      exact inside hn h
  · rw [after_other hc] at h
    cases h with
    | @inside _ _ inner _ hn h =>
      have hn : mark ∉ c :: inner := List.not_mem_cons_of_ne_of_not_mem (Ne.symm hc) hn
      exact inside hn h

theorem LeadsOut.before_parenthesis (h : LeadsOut (Nesting.after { depth := depth } ')') text) :
    LeadsOut { depth := depth } (')' :: text) := by
  cases depth with
  | zero =>
    -- A parenthesis with nothing to close is passed over at top level.
    have hsame : LeadsOut { depth := 0 } text := h
    cases hsame with
    | outside hcloses =>
      cases hcloses with
      | top hends => exact outside (.top (.stray .nil hends))
  | succ depth =>
    have hclosed : LeadsOut { depth := depth } text := h
    cases hclosed with
    | outside hcloses => exact outside (.close .nil hcloses)

theorem LeadsOut.before (h : LeadsOut (nesting.after c) text) : LeadsOut nesting (c :: text) := by
  obtain ⟨depth, open?⟩ := nesting
  cases open? with
  | some mark => exact h.before_quoted
  | none =>
    by_cases hm : c ∈ quotationMarks
    · rw [after_mark hm] at h
      cases h with
      | inside hn h => exact outside (h.quotation hm hn)
    by_cases ho : c = '('
    · subst ho
      have hopened : LeadsOut { depth := depth + 1 } text := h
      cases hopened with
      | outside hcloses =>
        cases hcloses with
        | close hf hrest => exact outside (hrest.group hf)
    by_cases hc : c = ')'
    · subst hc
      exact h.before_parenthesis
    · have hordinary : IsOrdinary c := ⟨hm, ho, hc⟩
      rw [hordinary.after] at h
      cases h with
      | outside h => exact outside (h.ordinary hordinary)

theorem leadsOut_of_isTop (h : (nesting.behind text).isTop) : LeadsOut nesting text := by
  induction text generalizing nesting with
  | nil =>
    obtain rfl : nesting = {} := Nesting.eq_of_isTop h
    exact .outside (.top (.balanced .nil))
  | cons c text ih =>
    have hrest : LeadsOut (nesting.after c) text := ih h
    exact hrest.before

theorem isTop_behind_iff : (Nesting.behind {} text).isTop ↔ EndsAtTop text := by
  constructor
  · intro h
    cases leadsOut_of_isTop h with
    | outside h =>
      cases h with
      | top h => exact h
  · intro h
    rw [h.behind_eq]
    rfl

end Scanner

end SchemaText.Sql.Clause
