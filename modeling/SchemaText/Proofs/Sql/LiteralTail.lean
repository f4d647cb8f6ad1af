import SchemaText.Sql.Column
import SchemaText.Proofs.Pattern.Spelled
/-! The tail of a column clause around the content of a literal, and what the rules that search the
tail find in it whatever the content is. -/

namespace SchemaText.Sql.ColumnClause

open Pattern
open Diagram (isPlain)
open Text (Stops stops_nil stops_cons isBlank isWord sameLetter)

/-- The options whose value can be a literal. -/
inductive ValueOption where
  | default
  | comment
  deriving Repr, DecidableEq

def ValueOption.letters : ValueOption → String
  | default => "DEFAULT"
  | comment => "COMMENT"

def closing? (mark : Char) : Option Char :=
  if mark = '[' then some ']' else if Literal.isMark mark then some mark else none

def quotationMarks : List Char :=
  ['[', ']', '`', '\'', '"']

def valueOpening (letters : String) : Pattern :=
  wordEdge ++ word letters ++ blanks

def ValueOption.otherRules : ValueOption → List (String × Pattern)
  | default => [("COMMENT", ColumnClause.comment), ("REFERENCES", reference)]
  | comment => [("DEFAULT", ColumnClause.default), ("REFERENCES", reference)]

def ValueOption.others (option : ValueOption) : List String :=
  option.otherRules.map Prod.fst

def flagRules : List Pattern :=
  [primaryKey, notNull, unique, autoIncrement]

/-- A text behind which an option can stand: its quotations are closed and no other value starts in
one, a parenthesis that is opened outside of them has one that closes it, and no word goes on. -/
inductive Clear (option : ValueOption) : List Char → Prop where
  | nil : Clear option []
  | plain {c : Char} {rest : List Char} (h : closing? c = none) (k : c = '(' → ')' ∈ rest)
      (e : rest = [] → isWord c = false) (r : Clear option rest) : Clear option (c :: rest)
  | quotation {opening closing : Char} {content rest : List Char}
      (h : closing? opening = some closing) (k : closing ∉ content)
      (q : ∀ letters ∈ option.others, (valueOpening letters).search content = none)
      (r : Clear option rest) : Clear option (opening :: (content ++ closing :: rest))

/-- The tail of a column clause around the content of a literal that is the value of an option. -/
structure Frame where
  option : ValueOption
  before : List Char
  keyword : List Char
  space : List Char
  after : List Char
  clear : Clear option before
  spelled : spells option.letters keyword
  space_ne : space ≠ []
  blank : ∀ c ∈ space, isBlank c

namespace Frame

variable (frame : Frame)

def key : List Char :=
  frame.keyword ++ frame.space

def fill (content : List Char) : List Char :=
  frame.before ++ frame.key ++ '\'' :: (content ++ '\'' :: frame.after)

/-- The content of a literal in which no rule finds anything: what a rule finds first from the
content on, if there is such a thing, starts behind the content. -/
def IsInert (content : List Char) : Prop :=
  ∀ rule ∈ flagRules ++ frame.option.otherRules.map Prod.snd,
    ∀ m ∈ rule.search (content ++ '\'' :: frame.after), content.length ≤ m.start

instance (content : List Char) : Decidable (frame.IsInert content) :=
  inferInstanceAs (Decidable (∀ _ ∈ _, ∀ _ ∈ _, _))

def fork (first second : List Char) : Fork where
  left := '\'' :: (first ++ '\'' :: frame.after)
  right := '\'' :: (second ++ '\'' :: frame.after)
  leftStart := (frame.before ++ frame.key).length
  rightStart := (frame.before ++ frame.key).length

def Ahead (ahead : List Char) : Prop :=
  ∃ text, ahead = text ++ frame.key ∧ Clear frame.option text

def WellAhead (ahead : List Char) : Prop :=
  ∃ c text, ahead = c :: text ++ frame.key ∧ Clear frame.option (c :: text)

def Within (closing : Char) (ahead : List Char) : Prop :=
  ∃ content text, ahead = content ++ closing :: (text ++ frame.key) ∧ closing ∉ content ∧
    Clear frame.option text

end Frame

section Marks

variable {c mark closing : Char} {letters : String}

theorem mem_quotationMarks (h : closing? mark = some closing) :
    mark ∈ quotationMarks ∧ closing ∈ quotationMarks := by
  unfold closing? at h
  split at h
  · next hm =>
    cases h
    exact ⟨hm ▸ by decide, by decide⟩
  · split at h
    · next hm =>
      cases h
      simp only [Literal.isMark, Bool.or_eq_true, beq_iff_eq] at hm
      rcases hm with (rfl | rfl) | rfl <;> decide
    · cases h

theorem isWord_of_closing? (h : closing? mark = some closing) :
    isWord mark = false ∧ isWord closing = false := by
  have hall : quotationMarks.all fun c => !isWord c := by decide +kernel
  have hmarks := List.all_eq_true.1 hall
  obtain ⟨hm, hc⟩ := mem_quotationMarks h
  exact ⟨by simpa using hmarks _ hm, by simpa using hmarks _ hc⟩

theorem isBlank_of_closing? (h : closing? mark = some closing) : isBlank mark = false := by
  have hall : quotationMarks.all fun c => !isBlank c := by decide +kernel
  simpa using List.all_eq_true.1 hall _ (mem_quotationMarks h).1

theorem closing?_eq_none {accepts : Char → Bool}
    (h : ∀ mark closing, closing? mark = some closing → accepts mark = false) (k : accepts c) :
    closing? c = none := by
  cases hc : closing? c with
  | none => rfl
  | some closing =>
    rw [h c closing hc] at k
    cases k

theorem sameLetter_eq_false {letter other : Char} (h : sameLetter other c)
    (k : sameLetter letter other = false) : sameLetter letter c = false := by
  unfold sameLetter at *
  rwa [← beq_iff_eq.1 h]

end Marks

namespace Frame

section Keyword

variable {frame : Frame} {letters : String}

theorem isWord_of_mem_keyword {c : Char} (h : c ∈ frame.keyword) : isWord c := by
  obtain ⟨letter, hl, hs⟩ := exists_letter frame.spelled c h
  refine Text.isWord_of_sameLetter ?_ hs
  have hplain : frame.option.letters.toList.all isPlain := by
    cases frame.option <;> decide
  exact List.all_eq_true.1 hplain letter hl

theorem exists_key : ∃ c rest, frame.key = c :: rest ∧ c ∈ frame.keyword := by
  have hne : frame.keyword ≠ [] := by
    intro h
    have hs := frame.spelled
    rw [h] at hs
    cases ho : frame.option <;> rw [ho] at hs <;> revert hs <;> decide
  obtain ⟨c, rest, h⟩ := List.exists_cons_of_ne_nil hne
  exact ⟨c, rest ++ frame.space, by rw [key, h, List.cons_append],
    by rw [h]; exact List.mem_cons_self⟩

theorem exists_initial (h : letters ∈ frame.option.others) :
    ∃ letter more, letters.toList = letter :: more ∧
      ∀ c ∈ frame.keyword, sameLetter letter c = false := by
  have hother {option : ValueOption} (hk : letters ∈ option.others) :
      ∃ letter more, letters.toList = letter :: more ∧
        option.letters.toList.all fun e => !sameLetter letter e := by
    cases option with
    | default =>
      have hcases : letters = "COMMENT" ∨ letters = "REFERENCES" := by
        simpa [ValueOption.others, ValueOption.otherRules] using hk
      rcases hcases with rfl | rfl <;> exact ⟨_, _, rfl, by decide⟩
    | comment =>
      have hcases : letters = "DEFAULT" ∨ letters = "REFERENCES" := by
        simpa [ValueOption.others, ValueOption.otherRules] using hk
      rcases hcases with rfl | rfl <;> exact ⟨_, _, rfl, by decide⟩
  obtain ⟨letter, more, hl, hnone⟩ := hother h
  refine ⟨letter, more, hl, fun c hc => ?_⟩
  obtain ⟨e, he, hs⟩ := exists_letter frame.spelled c hc
  exact sameLetter_eq_false hs (by simpa using List.all_eq_true.1 hnone e he)

theorem isPlain_of_mem_letters {option : ValueOption} (h : letters ∈ option.others) :
    ∀ c ∈ letters.toList, isPlain c := by
  have hall : option.others.all fun letters => letters.toList.all isPlain := by
    cases option <;> decide
  exact List.all_eq_true.1 (List.all_eq_true.1 hall letters h)

end Keyword

section Steps

variable {frame : Frame} {ahead : List Char} {c : Char}

theorem not_ahead_nil : ¬ frame.Ahead [] := by
  rintro ⟨text, h, _⟩
  obtain ⟨c, rest, hk, _⟩ := frame.exists_key
  rw [hk] at h
  simp at h

theorem Ahead.cases (h : frame.Ahead ahead) : ahead = frame.key ∨ frame.WellAhead ahead := by
  obtain ⟨text, rfl, hc⟩ := h
  cases text with
  | nil => exact .inl rfl
  | cons c text => exact .inr ⟨c, text, rfl, hc⟩

theorem WellAhead.tail (h : frame.WellAhead (c :: ahead))
    (k : closing? c = none) : frame.Ahead ahead := by
  obtain ⟨d, text, he, hc⟩ := h
  obtain ⟨rfl, rfl⟩ := List.cons.inj he
  cases hc with
  | plain _ _ _ r => exact ⟨text, rfl, r⟩
  | quotation hm => cases k.symm.trans hm

theorem WellAhead.tail_of_isWord (h : frame.WellAhead (c :: ahead)) (k : isWord c) :
    frame.WellAhead ahead := by
  obtain ⟨d, text, he, hc⟩ := h
  obtain ⟨rfl, rfl⟩ := List.cons.inj he
  cases hc with
  | plain _ _ e r =>
    obtain ⟨d, text, rfl⟩ := List.exists_cons_of_ne_nil fun hn => by
      rw [e hn] at k
      cases k
    exact ⟨d, text, rfl, r⟩
  | quotation hm =>
    rw [(isWord_of_closing? hm).1] at k
    cases k

theorem Ahead.tail (h : frame.Ahead (c :: ahead)) (hk : c ∉ frame.keyword)
    (k : closing? c = none) : frame.Ahead ahead := by
  rcases h.cases with he | h
  · obtain ⟨d, rest, hd, hin⟩ := frame.exists_key
    obtain ⟨rfl, _⟩ := List.cons.inj (he.trans hd)
    exact absurd hin hk
  · exact h.tail k

theorem Within.tail {closing : Char} (h : frame.Within closing (c :: ahead)) (k : c ≠ closing) :
    frame.Within closing ahead := by
  obtain ⟨content, text, he, hn, hc⟩ := h
  cases content with
  | nil => exact absurd (List.cons.inj he).1 k
  | cons d content =>
    obtain ⟨rfl, rfl⟩ := List.cons.inj he
    exact ⟨content, text, rfl, fun hm => hn (List.mem_cons_of_mem _ hm), hc⟩

theorem Within.close {closing : Char} (h : frame.Within closing (closing :: ahead)) :
    frame.Ahead ahead := by
  obtain ⟨content, text, he, hn, hc⟩ := h
  cases content with
  | nil =>
    obtain ⟨_, rfl⟩ := List.cons.inj he
    exact ⟨text, rfl, hc⟩
  | cons d content =>
    obtain ⟨rfl, _⟩ := List.cons.inj he
    exact absurd List.mem_cons_self hn

theorem not_within_nil {closing : Char} : ¬ frame.Within closing [] := by
  rintro ⟨content, text, h, _⟩
  simp at h

theorem Ahead.open {opening closing : Char} (h : frame.Ahead (opening :: ahead))
    (k : closing? opening = some closing) : frame.Within closing ahead := by
  obtain ⟨text, he, hc⟩ := h
  cases text with
  | nil =>
    obtain ⟨d, rest, hd, hin⟩ := frame.exists_key
    obtain ⟨rfl, _⟩ := List.cons.inj (he.trans hd)
    have hw := isWord_of_mem_keyword hin
    rw [(isWord_of_closing? k).1] at hw
    cases hw
  | cons d text =>
    obtain ⟨rfl, rfl⟩ := List.cons.inj he
    cases hc with
    | plain hn => cases hn.symm.trans k
    | quotation hm hn _ r =>
      obtain rfl := Option.some.inj (hm.symm.trans k)
      exact ⟨_, _, by simp, hn, r⟩

end Steps

section Openings

variable {frame : Frame} {first second : List Char} {letters : String}

theorem alike_gap_ahead : Alike (frame.fork first second) frame.Ahead frame.Ahead gap := by
  refine alike_most (fun _ => id) (fun c ahead h hb => h.tail (fun hc => ?_)
    (closing?_eq_none (fun _ _ => isBlank_of_closing?) hb)) fun h => absurd h not_ahead_nil
  rw [Text.isBlank_eq_false_of_isWord (isWord_of_mem_keyword hc)] at hb
  cases hb

theorem alike_wordEdge_ahead :
    Alike (frame.fork first second) frame.Ahead frame.Ahead wordEdge :=
  alike_wordEdge fun _ => rfl

theorem alike_word_ahead (h : letters ∈ frame.option.others) :
    Alike (frame.fork first second) frame.Ahead frame.WellAhead (word letters) := by
  obtain ⟨letter, more, hl, hnone⟩ := exists_initial h
  have hword {c d : Char} (hc : c ∈ letters.toList) (hs : sameLetter c d) : isWord d :=
    Text.isWord_of_sameLetter (isPlain_of_mem_letters h c hc) hs
  unfold word
  rw [hl] at hword ⊢
  refine Alike.append (Q := frame.WellAhead) ?_ (alike_letters fun c hc => ?_)
  · refine alike_one (fun c ahead ha hs => ?_) fun h => absurd h not_ahead_nil
    rcases ha.cases with he | ha
    · obtain ⟨d, rest, hd, hin⟩ := frame.exists_key
      obtain ⟨rfl, _⟩ := List.cons.inj (he.trans hd)
      rw [hnone c hin] at hs
      cases hs
    · exact ha.tail_of_isWord (hword List.mem_cons_self hs)
  · refine alike_one (fun d ahead ha hs => ?_) fun ⟨_, _, ha, _⟩ => by simp at ha
    exact ha.tail_of_isWord (hword (List.mem_cons_of_mem _ hc) hs)

theorem alike_blanks :
    Alike (frame.fork first second) frame.WellAhead frame.Ahead blanks := by
  refine Alike.append (Q := frame.Ahead) ?_ alike_gap_ahead
  exact alike_one
    (fun c ahead ha hb => ha.tail (closing?_eq_none (fun _ _ => isBlank_of_closing?) hb))
    fun ⟨_, _, ha, _⟩ => by simp at ha

theorem alike_valueOpening (h : letters ∈ frame.option.others) :
    Alike (frame.fork first second) frame.Ahead frame.Ahead (valueOpening letters) :=
  (alike_wordEdge_ahead.append (alike_word_ahead h)).append alike_blanks

end Openings

section Values

variable {frame : Frame} {first second : List Char}

def Bounded (accepts : Char → Bool) (ahead : List Char) : Prop :=
  ∃ c ∈ ahead, accepts c = false

theorem Bounded.tail {accepts : Char → Bool} {c : Char} {ahead : List Char}
    (h : Bounded accepts (c :: ahead)) (k : accepts c) : Bounded accepts ahead := by
  obtain ⟨d, hd, hn⟩ := h
  rcases List.mem_cons.1 hd with rfl | hd
  · rw [k] at hn
    cases hn
  · exact ⟨d, hd, hn⟩

theorem not_bounded_nil {accepts : Char → Bool} : ¬ Bounded accepts [] := by
  rintro ⟨c, hc, _⟩
  cases hc

theorem alike_most_bounded {f : Fork} {accepts : Char → Bool} :
    Alike f (Bounded accepts) (Bounded accepts) (most accepts) :=
  alike_most (fun _ => id) (fun _ _ h k => h.tail k) fun h => absurd h not_bounded_nil

theorem alike_oneOrMore_bounded {f : Fork} {accepts : Char → Bool} :
    Alike f (Bounded accepts) (Bounded accepts) (oneOrMore accepts) :=
  alike_oneOrMore (fun _ _ h k => h.tail k) (fun _ _ h k => h.tail k)
    fun h => absurd h (not_or.2 ⟨not_bounded_nil, not_bounded_nil⟩)

theorem alike_close {f : Fork} {accepts rejects : Char → Bool} :
    Alike f (Bounded accepts) (fun _ => True) (one rejects) :=
  alike_one (fun _ _ _ _ => trivial) fun h => absurd h not_bounded_nil

theorem Within.bounded {accepts : Char → Bool} {closing : Char} {ahead : List Char}
    (h : frame.Within closing ahead) (k : accepts closing = false) : Bounded accepts ahead := by
  obtain ⟨content, text, rfl, _⟩ := h
  exact ⟨closing, by simp, k⟩

theorem alike_char_ahead {opening closing : Char} (h : closing? opening = some closing) :
    Alike (frame.fork first second) frame.Ahead (frame.Within closing) (char opening) := by
  refine alike_one (fun c ahead ha hc => ?_) fun h => absurd h not_ahead_nil
  obtain rfl := beq_iff_eq.1 hc
  exact ha.open h

theorem alike_char_within {closing : Char} :
    Alike (frame.fork first second) (frame.Within closing) frame.Ahead (char closing) := by
  refine alike_one (fun c ahead ha hc => ?_) fun h => absurd h not_within_nil
  obtain rfl := beq_iff_eq.1 hc
  exact ha.close

theorem alike_comment (h : "COMMENT" ∈ frame.option.others) :
    Alike (frame.fork first second) frame.Ahead (fun _ => True) comment := by
  have hmark : Alike (frame.fork first second) frame.Ahead (Bounded fun c => !commentMark c)
      (one commentMark) := by
    refine alike_one (fun c ahead ha hc => ?_) fun h => absurd h not_ahead_nil
    have hclosing : closing? c = some c := by
      simp only [commentMark, Bool.or_eq_true, beq_iff_eq] at hc
      rcases hc with rfl | rfl <;> decide
    exact (ha.open hclosing).bounded (by simp [hc])
  exact (((alike_valueOpening h).append hmark).append
    (alike_oneOrMore_bounded.group "note")).append alike_close

theorem alike_literal :
    Alike (frame.fork first second) frame.Ahead (fun _ => True) Literal.pattern := by
  have hcontent : Alike (frame.fork first second) (frame.Within '\'') (frame.Within '\'')
      Literal.content := by
    refine Alike.repeated (Alike.orElse ?_ ?_)
    · refine alike_one (fun c ahead ha hc => ha.tail ?_) fun h => absurd h not_within_nil
      simpa using hc
    · exact alike_char_within.append (alike_char_ahead rfl)
  exact ((alike_char_ahead rfl).append (hcontent.group "1")).append
    (alike_char_within.imp (fun _ => id) fun _ _ => trivial)

theorem Ahead.bounded {accepts : Char → Bool} {ahead : List Char} (h : frame.Ahead ahead)
    (k : ∀ c, isBlank c → accepts c = false) : Bounded accepts ahead := by
  obtain ⟨text, rfl, _⟩ := h
  obtain ⟨c, space, hc⟩ := List.exists_cons_of_ne_nil frame.space_ne
  exact ⟨c, by simp [key, hc], k c (frame.blank c (by simp [hc]))⟩

theorem alike_default (h : "DEFAULT" ∈ frame.option.others) :
    Alike (frame.fork first second) frame.Ahead (fun _ => True) default := by
  have htoken : Alike (frame.fork first second) frame.Ahead (fun _ => True)
      (oneOrMore fun c => c ≠ ',' && !isBlank c) :=
    alike_oneOrMore_bounded.imp (fun _ ha => ha.bounded fun c hc => by simp [hc])
      fun _ _ => trivial
  exact (alike_valueOpening h).append
    (alike_literal.orElse (htoken.group "token"))

end Values

section References

variable {frame : Frame} {first second ahead : List Char} {c : Char}

def Named (frame : Frame) (ahead : List Char) : Prop :=
  frame.Ahead ahead ∨ ∀ c ∈ ahead, isWord c ∨ isBlank c

theorem Named.tail (h : frame.Named (c :: ahead))
    (k : closing? c = none) : frame.Named ahead := by
  rcases h with h | h
  · rcases h.cases with he | h
    · refine .inr fun d hd => ?_
      have hin : d ∈ frame.key := he ▸ List.mem_cons_of_mem c hd
      exact (List.mem_append.1 hin).imp isWord_of_mem_keyword (frame.blank d)
    · exact .inl (h.tail k)
  · exact .inr fun d hd => h d (List.mem_cons_of_mem c hd)

theorem alike_gap_named : Alike (frame.fork first second) frame.Named frame.Named gap :=
  alike_most (fun _ => id)
    (fun _ _ h hb => h.tail (closing?_eq_none (fun _ _ => isBlank_of_closing?) hb))
    fun _ => ⟨stops_cons.2 (by decide), stops_cons.2 (by decide)⟩

theorem alike_char_named {mark : Char} {Q : List Char → Prop} (hw : isWord mark = false)
    (hb : isBlank mark = false) (hq : mark ≠ '\'')
    (h : ∀ ahead, frame.WellAhead (mark :: ahead) → Q ahead) :
    Alike (frame.fork first second) frame.Named Q (char mark) := by
  refine alike_one (fun c ahead ha hc => ?_) fun _ => ?_
  · obtain rfl := beq_iff_eq.1 hc
    rcases ha with ha | ha
    · rcases ha.cases with he | ha
      · obtain ⟨d, rest, hd, hin⟩ := frame.exists_key
        obtain ⟨rfl, _⟩ := List.cons.inj (he.trans hd)
        rw [isWord_of_mem_keyword hin] at hw
        cases hw
      · exact h ahead ha
    · have hno := ha c List.mem_cons_self
      simp [hw, hb] at hno
  · exact ⟨stops_cons.2 (by simpa using hq.symm), stops_cons.2 (by simpa using hq.symm)⟩

theorem alike_enclosed {opening closing : Char} (h : closing? opening = some closing) :
    Alike (frame.fork first second) frame.Ahead frame.Named
      (Identifier.enclosed opening closing) := by
  have htail (c : Char) (ahead : List Char) (ha : frame.Within closing (c :: ahead))
      (hc : (decide (c ≠ closing)) = true) : frame.Within closing ahead :=
    ha.tail (by simpa using hc)
  have hinner : Alike (frame.fork first second) (frame.Within closing) (frame.Within closing)
      (oneOrMore (· ≠ closing)) :=
    alike_oneOrMore htail htail fun h => absurd h (not_or.2 ⟨not_within_nil, not_within_nil⟩)
  exact ((alike_char_ahead h).append hinner).append
    (alike_char_within.imp (fun _ => id) fun _ => .inl)

theorem alike_name :
    Alike (frame.fork first second) frame.Ahead frame.Named Identifier.name := by
  have htail (c : Char) (ahead : List Char) (ha : frame.Named (c :: ahead)) (hc : isWord c) :
      frame.Named ahead :=
    ha.tail (closing?_eq_none (fun _ _ hm => (isWord_of_closing? hm).1) hc)
  have hword : Alike (frame.fork first second) frame.Ahead frame.Named (oneOrMore isWord) :=
    alike_oneOrMore (fun c ahead ha => htail c ahead (.inl ha)) htail
      fun _ => ⟨stops_cons.2 (by decide), stops_cons.2 (by decide)⟩
  have hquoted : Alike (frame.fork first second) frame.Ahead frame.Named Identifier.quoted :=
    (alike_enclosed rfl).orElse ((alike_enclosed rfl).orElse (alike_enclosed rfl))
  exact hquoted.orElse hword

theorem alike_qualifiedName :
    Alike (frame.fork first second) frame.Ahead frame.Named Identifier.qualifiedName := by
  have hdot : Alike (frame.fork first second) frame.Named frame.Ahead (char '.') :=
    alike_char_named (by decide) (by decide) (by decide) fun _ h => h.tail rfl
  exact alike_name.append
    ((((alike_gap_named.append hdot).append alike_gap_ahead).append alike_name).repeated)

theorem alike_reference :
    Alike (frame.fork first second) frame.Ahead (fun _ => True) reference := by
  have hother : "REFERENCES" ∈ frame.option.others := by
    cases frame.option <;> decide
  have hopen : Alike (frame.fork first second) frame.Named
      (Bounded fun c => c ≠ '(' && c ≠ ')') (char '(') := by
    refine alike_char_named (by decide) (by decide) (by decide) fun ahead h => ?_
    obtain ⟨c, text, he, hc⟩ := h
    obtain ⟨rfl, rfl⟩ := List.cons.inj he
    cases hc with
    | plain _ k _ _ => exact ⟨')', List.mem_append_left _ (k rfl), by decide⟩
    | quotation hm => cases hm
  have hlist : Alike (frame.fork first second) frame.Named (fun _ => True)
      (Identifier.parenthesised "target_columns") :=
    (hopen.append (alike_most_bounded.group "target_columns")).append alike_close
  exact alike_wordEdge_ahead.append
    (((((alike_word_ahead hother).append alike_blanks).append
      (alike_qualifiedName.group "target")).append alike_gap_named).append hlist)

end References

end Frame

end SchemaText.Sql.ColumnClause
