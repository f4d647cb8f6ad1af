import SchemaText.Proofs.Sql.OptionText
import SchemaText.Proofs.Sql.Recognised
import SchemaText.Proofs.Text.Trim
/-! The values in the options of a column: numbers, notes and columns of other tables, as the rules
for them take them up. -/

namespace SchemaText.Sql.ColumnClause

open Pattern
open Sql.Core (enclosed)
open Text (Stops stops_nil stops_cons isBlank isWord)

section Names

variable {before behind : List Char}

theorem BareName.firm (name : BareName) : Text.Firm name.chars :=
  Text.firm_of_forall name.ne_nil fun c hc => Text.isBlank_eq_false_of_isWord (name.word c hc)

theorem BareName.ne_of_mem_spaced (name : BareName) (hb : ∀ c ∈ before, isBlank c)
    (ha : ∀ c ∈ behind, isBlank c) {d : Char} (hd : isBlank d = false) (hw : isWord d = false) :
    ∀ c ∈ before ++ (name.chars ++ behind), c ≠ d := by
  rintro c hc rfl
  rcases List.mem_append.1 hc with hc | hc
  · rw [hb c hc] at hd
    cases hd
  rcases List.mem_append.1 hc with hc | hc
  · rw [name.word c hc] at hw
    cases hw
  · rw [ha c hc] at hd
    cases hd

theorem BareName.trim_spaced (name : BareName) (hb : ∀ c ∈ before, isBlank c)
    (ha : ∀ c ∈ behind, isBlank c) : Text.trim (before ++ (name.chars ++ behind)) = name.chars :=
  name.firm.trim_between (List.all_eq_true.2 hb) (List.all_eq_true.2 ha)

theorem BareName.clean_spaced (name : BareName) (hb : ∀ c ∈ before, isBlank c)
    (ha : ∀ c ∈ behind, isBlank c) :
    Identifier.clean (before ++ (name.chars ++ behind)) = name.chars := by
  have hne {d : Char} (hd : isBlank d = false) (hw : isWord d = false) :=
    name.ne_of_mem_spaced hb ha hd hw
  have hplain : (before ++ (name.chars ++ behind)).filter (fun c => !Identifier.isEnclosing c) =
      before ++ (name.chars ++ behind) := by
    refine List.filter_eq_self.2 fun c hc => ?_
    have hgrave : c ≠ '`' := hne (by decide) (by decide) c hc
    have hquote : c ≠ '"' := hne (by decide) (by decide) c hc
    have hopen : c ≠ '[' := hne (by decide) (by decide) c hc
    have hclose : c ≠ ']' := hne (by decide) (by decide) c hc
    simp [Identifier.isEnclosing, hgrave, hquote, hopen, hclose]
  have hdots : Text.split (· == '.') (before ++ (name.chars ++ behind)) =
      [before ++ (name.chars ++ behind)] :=
    Text.split_eq_singleton fun c hc => by
      simpa using hne (by decide) (by decide) c hc
  unfold Identifier.clean
  rw [hplain, hdots, List.map_singleton, name.trim_spaced hb ha, Text.intercalate_cons,
    List.flatMap_nil, List.append_nil]

theorem BareName.clean (name : BareName) : Identifier.clean name.chars = name.chars := by
  have h := @clean_spaced [] [] name (by simp) (by simp)
  rwa [List.nil_append, List.append_nil] at h

theorem BareName.cleanList_spaced (name : BareName) (hb : ∀ c ∈ before, isBlank c)
    (ha : ∀ c ∈ behind, isBlank c) :
    Identifier.cleanList (before ++ (name.chars ++ behind)) = [name.chars] := by
  have hcommas : Text.split (· == ',') (before ++ (name.chars ++ behind)) =
      [before ++ (name.chars ++ behind)] :=
    Text.split_eq_singleton fun c hc => by
      simpa using name.ne_of_mem_spaced hb ha (by decide) (by decide) c hc
  simp [Identifier.cleanList, hcommas, name.trim_spaced hb ha, name.ne_nil,
    name.clean_spaced hb ha]

theorem BareName.cleanList (name : BareName) : Identifier.cleanList name.chars = [name.chars] := by
  have h := @cleanList_spaced [] [] name (by simp) (by simp)
  rwa [List.nil_append, List.append_nil] at h

theorem BareName.isName (name : BareName) : Identifier.IsName name.chars :=
  .word name.ne_nil name.word

end Names

section Values

variable {letters : String} {rest : List Char}

def defaultValue : Pattern :=
  Literal.pattern <|> group "token" (oneOrMore fun c => c ≠ ',' && !isBlank c)

def commentValue : Pattern :=
  one commentMark ++ (group "note" (oneOrMore fun c => !commentMark c) ++ one commentMark)

theorem agrees_default : default.Agrees (keyed "DEFAULT" defaultValue) :=
  fun _ _ _ => rfl

theorem agrees_comment : comment.Agrees (keyed "COMMENT" commentValue) :=
  fun _ _ _ => rfl

theorem agrees_keyed_reference : reference.Agrees (keyed "REFERENCES" referenceEnd) :=
  fun _ _ _ => rfl

theorem Numeral.exists_cons (n : Numeral) :
    ∃ c rest, n.chars = c :: rest ∧ (c = '-' ∨ c.isDigit) ∧ ∀ d ∈ rest, d.isDigit := by
  obtain ⟨c, digits, hc⟩ := List.exists_cons_of_ne_nil n.ne_nil
  have hall := n.digit
  unfold chars
  cases n.negative with
  | true => exact ⟨'-', n.digits, rfl, .inl rfl, hall⟩
  | false =>
    rw [hc] at hall ⊢
    exact ⟨c, digits, rfl, .inr (hall c List.mem_cons_self),
      fun d hd => hall d (List.mem_cons_of_mem c hd)⟩

theorem Numeral.eq_or_isDigit (n : Numeral) : ∀ c ∈ n.chars, c = '-' ∨ c.isDigit := by
  obtain ⟨c, rest, hc, hfirst, hrest⟩ := n.exists_cons
  rw [hc]
  exact List.forall_mem_cons.2 ⟨hfirst, fun d hd => .inr (hrest d hd)⟩

theorem Numeral.holds_eq_false (n : Numeral) (hk : isKeyword letters)
    (hl : letters.toList.all fun c => !(Text.foldLetter c).isDigit && !Text.sameLetter c '-') :
    Pattern.holds letters n.chars = false := by
  refine Bool.eq_false_iff.2 fun hh => ?_
  obtain ⟨front, word, back, he, hs⟩ := exists_of_holds hh
  obtain ⟨c, word, rfl⟩ := List.exists_cons_of_ne_nil (ne_nil_of_spells hk hs)
  obtain ⟨letter, hin, hsame⟩ := exists_letter hs c List.mem_cons_self
  have hletter := List.all_eq_true.1 hl letter hin
  simp only [Bool.and_eq_true, Bool.not_eq_true'] at hletter
  rcases n.eq_or_isDigit c (by rw [he]; simp) with rfl | hc
  · rw [hletter.2] at hsame
    cases hsame
  · rw [Text.sameLetter_of_isDigit hc hletter.1] at hsame
    cases hsame

theorem Note.holds_eq (note : Note) (hk : isKeyword letters) :
    Pattern.holds letters ('\'' :: (note.chars ++ ['\''])) = Pattern.holds letters note.chars := by
  have hmark : Pattern.holds letters ['\''] = false :=
    holds_eq_false hk (List.forall_mem_singleton.2 (by decide))
  rw [← List.singleton_append, holds_append hk (.inl (by decide)),
    holds_append hk (.inr (stops_cons.2 (by decide))), hmark, Bool.false_or, Bool.or_false]

theorem Numeral.stops (n : Numeral) {accepts : Char → Bool} (h : accepts '-' = false)
    (hd : ∀ c, c.isDigit → accepts c = false) (rest : List Char) :
    Stops accepts (n.chars ++ rest) := by
  obtain ⟨c, more, hc, hfirst, _⟩ := n.exists_cons
  rw [hc]
  refine stops_cons.2 ?_
  rcases hfirst with rfl | hfirst
  · exact h
  · exact hd c hfirst

theorem isWord_of_isDigit {c : Char} (h : c.isDigit) : isWord c :=
  Text.isWord_of_isPlain (by simp [Diagram.isPlain, Char.isAlphanum, h])

theorem Numeral.stops_isBlank (n : Numeral) (rest : List Char) : Stops isBlank (n.chars ++ rest) :=
  n.stops (by decide) (fun _ h => Text.isBlank_eq_false_of_isWord (isWord_of_isDigit h)) rest

theorem Numeral.takes (n : Numeral) (hr : Apart rest) :
    defaultValue.Takes n.chars rest [("token", n.chars)] := by
  have hne : n.chars ≠ [] := by
    obtain ⟨c, more, hc, _⟩ := n.exists_cons
    rw [hc]
    exact List.cons_ne_nil c more
  have hliteral : Literal.pattern.FailsOn (n.chars ++ rest) := by
    refine (failsOn_one (n.stops (by decide) (fun c hc => ?_) rest)).append _ |>.append _
    simpa using fun h => absurd (h ▸ hc) (by decide)
  have hin : ∀ c ∈ n.chars, c ≠ ',' && !isBlank c := by
    intro c hc
    rcases n.eq_or_isDigit c hc with rfl | hd
    · decide
    · have hblank := Text.isBlank_eq_false_of_isWord (isWord_of_isDigit hd)
      have hcomma : c ≠ ',' := by
        rintro rfl
        exact absurd hd (by decide)
      simp [hblank, hcomma]
  have hrun := takes_oneOrMore hne hin (hr.stops fun c hc => by simp [hc])
  exact hliteral.orElse_takes (hrun.group "token")

theorem dropMark_eq_self {text : List Char} (h : ∀ c ∈ text, Literal.isMark c = false) :
    Literal.dropMark text = text := by
  cases text with
  | nil => rfl
  | cons c text => simp [Literal.dropMark, h c List.mem_cons_self]

theorem unquote_eq_self {text : List Char} (h : ∀ c ∈ text, Literal.isMark c = false) :
    Literal.unquote text = text := by
  rw [Literal.unquote, dropMark_eq_self h, Literal.dropLastMark]
  split
  · next c rest he =>
    have hc : Literal.isMark c = false := h c (List.mem_reverse.1 (by rw [he]; simp))
    rw [hc]
    rfl
  · rw [dropMark_eq_self fun c hc => h c (List.mem_reverse.1 hc), List.reverse_reverse]

theorem Numeral.unquote (n : Numeral) : Literal.unquote n.chars = n.chars := by
  refine unquote_eq_self fun c hc => ?_
  rcases n.eq_or_isDigit c hc with rfl | hd
  · decide
  · refine Bool.eq_false_iff.2 fun hm => ?_
    simp only [Literal.isMark, Bool.or_eq_true, beq_iff_eq] at hm
    rcases hm with (rfl | rfl) | rfl <;> exact absurd hd (by decide)

theorem Note.takes (note : Note) (rest : List Char) :
    commentValue.Takes ('\'' :: (note.chars ++ ['\''])) rest [("note", note.chars)] := by
  have hin : ∀ c ∈ note.chars, !commentMark c := fun c hc => by simp [note.unmarked c hc]
  have hmark (rest : List Char) : (one commentMark).Takes ['\''] rest [] :=
    takes_of_leads fun s hs => leads_one hs (by decide)
  have hstops : Stops (fun c => !commentMark c) (['\''] ++ rest) := stops_cons.2 (by decide)
  have hrun := takes_oneOrMore note.ne_nil hin hstops
  exact (hmark _).append ((hrun.group "note").append (hmark rest))

theorem failsOn_dot {outside : List Char} (ho : ∀ c ∈ outside, isBlank c) (rest : List Char) :
    Identifier.dotted.FailsOn (outside ++ '(' :: rest) := by
  intro s hs
  refine Fails.append (Fails.append (fails_append fun t ht => ?_) _) _
  obtain ⟨taken, hsp, ha, _⟩ := Spot.mem_run_iff.1 ht
  obtain ⟨gap', hrest, hg⟩ :=
    exists_gap_of_append ho ha (by decide) (hs.symm.trans hsp.rest)
  have hstops : Stops (· == '.') t.rest := by
    rw [hrest]
    refine stops_gap_append hg (fun c hc => ?_) (by decide) rest
    simpa using fun he : c = '.' => absurd (he ▸ hc) (by decide)
  exact failsOn_one hstops _ rfl

theorem takes_referenceEnd (table column : BareName) {outside before behind : List Char}
    (ho : ∀ c ∈ outside, isBlank c) (hb : ∀ c ∈ before, isBlank c) (ha : ∀ c ∈ behind, isBlank c)
    (rest : List Char) :
    referenceEnd.Takes
      (table.chars ++ (outside ++ '(' :: (before ++ (column.chars ++ (behind ++ [')']))))) rest
      [("target_columns", before ++ (column.chars ++ behind)), ("target", table.chars)] := by
  have hinner : ∀ c ∈ before ++ (column.chars ++ behind), c ≠ '(' && c ≠ ')' := by
    intro c hc
    have hopen := column.ne_of_mem_spaced hb ha (d := '(') (by decide) (by decide) c hc
    have hclose := column.ne_of_mem_spaced hb ha (d := ')') (by decide) (by decide) c hc
    simp [hopen, hclose]
  have hlist := Core.takes_parenthesised "target_columns" (List.all_eq_true.2 hinner) rest
  have hgap : gap.Takes outside (enclosed (before ++ (column.chars ++ behind)) ++ rest) [] :=
    takes_most ho (stops_cons.2 (by decide))
  have hword : isWord '(' = false := by decide
  have htable := table.isName.takes_unqualified
    (stops_gap_append ho (fun _ => Text.isWord_eq_false_of_isBlank) hword
      (before ++ (column.chars ++ behind) ++ [')'] ++ rest)) (failsOn_dot ho _)
  have htext : table.chars ++ (outside ++ '(' :: (before ++ (column.chars ++ (behind ++ [')'])))) =
      table.chars ++ (outside ++ enclosed (before ++ (column.chars ++ behind))) := by
    simp [enclosed]
  rw [htext]
  refine Takes.append (Takes.group ?_ "target") (hgap.append hlist)
  rwa [List.append_assoc]

end Values

end SchemaText.Sql.ColumnClause
