import SchemaText.Proofs.Sql.LiteralTail
import SchemaText.Proofs.Sql.Opening
/-! Searches of the tail of a column clause for what is not in its literal. -/

namespace SchemaText.Sql.ColumnClause

open Pattern
open Diagram (isPlain)
open Text (Stops stops_nil stops_cons isBlank isWord sameLetter)

structure StartsLike (start rule : Pattern) : Prop where
  fails : ∀ s, start.Fails s → rule.Fails s
  needs : ∃ accepts, Needs accepts start
  ends : start.shuns none
  marks : ∀ mark ∈ quotationMarks, start.shuns (some mark)
  inner : rule.shuns none

section Rules

theorem startsLike_flag {rule : Pattern} (h : rule ∈ flagRules) : StartsLike rule rule := by
  have hends : flagRules.all fun rule =>
      rule.shuns none && quotationMarks.all fun mark => rule.shuns (some mark) := by
    decide +kernel
  have hrule := Bool.and_eq_true_iff.1 (List.all_eq_true.1 hends rule h)
  refine ⟨fun _ hf => hf, ?_, hrule.1, List.all_eq_true.1 hrule.2, hrule.1⟩
  have hword (letters : String) (letter : Char) (hl : letter ∈ letters.toList) :=
    needs_word letters hl
  simp only [flagRules, List.mem_cons, List.not_mem_nil, or_false] at h
  rcases h with rfl | rfl | rfl | rfl
  · exact ⟨_, ((hword "PRIMARY" 'P' (by decide)).append_left _).append_left _⟩
  · exact ⟨_, ((hword "NOT" 'N' (by decide)).append_left _).append_left _⟩
  · exact ⟨_, (hword "UNIQUE" 'U' (by decide)).append_left _⟩
  · refine ⟨sameLetter 'A', Needs.orElse ?_ ?_⟩
    · exact ((hword "AUTO" 'A' (by decide)).append_left _).append_left _
    · have hgenerated := hword "GENERATED" 'A' (by decide)
      exact (((hgenerated.append_left _).append_left _).append_left _).append_left _

def referenceEnd : Pattern :=
  group "target" Identifier.qualifiedName ++ (gap ++ Identifier.parenthesised "target_columns")

theorem agrees_reference : reference.Agrees (valueOpening "REFERENCES" ++ referenceEnd) := by
  intro β goOn s
  simp only [reference, referencePattern, referenceEnd, valueOpening, spaced,
    Statement.tryAt_append]

theorem startsLike_value {option : ValueOption} {letters : String} {rule : Pattern}
    (h : (letters, rule) ∈ option.otherRules) : StartsLike (valueOpening letters) rule := by
  have hends : option.otherRules.all fun value => value.2.shuns none &&
      (valueOpening value.1).shuns none && quotationMarks.all fun mark =>
        (valueOpening value.1).shuns (some mark) := by
    cases option <;> decide +kernel
  have hrule := List.all_eq_true.1 hends _ h
  rw [Bool.and_eq_true, Bool.and_eq_true] at hrule
  have hneeds : Needs isBlank (valueOpening letters) :=
    (needs_one.append_left _).append_right _
  refine ⟨fun s hf => ?_, ⟨_, hneeds⟩, hrule.1.2, List.all_eq_true.1 hrule.2, hrule.1.1⟩
  have hreference (hs : (valueOpening "REFERENCES").Fails s) : reference.Fails s := by
    intro β goOn
    rw [agrees_reference]
    exact hs.append _ goOn
  cases option <;>
    simp only [ValueOption.otherRules, List.mem_cons, Prod.mk.injEq, List.not_mem_nil,
      or_false] at h <;>
    rcases h with ⟨rfl, rfl⟩ | ⟨rfl, rfl⟩
  · exact ((hf.append _).append _).append _
  · exact hreference hf
  · exact hf.append _
  · exact hreference hf

end Rules

namespace Frame

variable {frame : Frame} {first second : List Char} {start rule : Pattern} {s t : Spot}
  {letters : String}

theorem textsFrom_literal (h : StartsLike start rule)
    (hf : ∀ m ∈ rule.search (first ++ '\'' :: frame.after), first.length ≤ m.start)
    (hs : ∀ m ∈ rule.search (second ++ '\'' :: frame.after), second.length ≤ m.start)
    (ht : (frame.fork first second).Twins [] s t) (hsc : s.captures = []) (htc : t.captures = []) :
    rule.textsFrom s = rule.textsFrom t := by
  obtain ⟨accepts, hneeds⟩ := h.needs
  have hmark := h.marks '\'' (by decide)
  have hpass {content : List Char} {u : Spot}
      (hc : ∀ m ∈ rule.search (content ++ '\'' :: frame.after), content.length ≤ m.start)
      (hr : u.rest = '\'' :: (content ++ '\'' :: frame.after)) (hu : u.captures = []) :
      rule.textsFrom u = rule.textsFrom (u.past ('\'' :: (content ++ ['\''])) frame.after) := by
    refine textsFrom_quotation h.fails hneeds h.ends hmark hmark (by decide) (by decide)
      (fun ys zs he hz => ?_) hr
    have hfails := fails_before_found (s := u.past ['\''] (content ++ '\'' :: frame.after)) hc
      h.inner rfl rfl hu he hz
    rwa [Spot.past_past] at hfails
  rw [hpass hf ht.left hsc, hpass hs ht.right htc]
  let f : Fork := ⟨[], [], s.offset + ('\'' :: (first ++ ['\''])).length + frame.after.length,
    t.offset + ('\'' :: (second ++ ['\''])).length + frame.after.length⟩
  refine textsFrom_eq_of_twins (f := f) h.inner rfl rfl
    ⟨(List.append_nil frame.after).symm, (List.append_nil _).symm, rfl, rfl, ?_, ht.texts⟩
  show (('\'' :: (first ++ ['\''])).getLast?.or s.before).any isWord =
    (('\'' :: (second ++ ['\''])).getLast?.or t.before).any isWord
  rw [← List.cons_append, ← List.cons_append, List.getLast?_concat, List.getLast?_concat]
  rfl

theorem failsOn_key (h : letters ∈ frame.option.others) {c : Char}
    (hc : c ∈ frame.key) (rest : List Char) : (valueOpening letters).FailsOn (c :: rest) := by
  obtain ⟨letter, more, hl, hnone⟩ := exists_initial h
  have hother : sameLetter letter c = false := by
    rcases List.mem_append.1 hc with hc | hc
    · exact hnone c hc
    · refine Bool.eq_false_iff.2 fun hs => ?_
      have hplain : isPlain letter :=
        isPlain_of_mem_letters h letter (by rw [hl]; exact List.mem_cons_self)
      have hword := Text.isBlank_eq_false_of_isWord (Text.isWord_of_sameLetter hplain hs)
      rw [frame.blank c hc] at hword
      cases hword
  have hfails : (word letters).FailsOn (c :: rest) := by
    unfold word
    rw [hl]
    exact (failsOn_one (stops_cons.2 hother)).append _
  intro u hu
  refine Fails.append (fails_append fun v hv => ?_) _
  obtain ⟨_, rfl⟩ := hv
  exact hfails _ hu

theorem textsFrom_key (hr : StartsLike (valueOpening letters) rule)
    (h : letters ∈ frame.option.others) {rest : List Char} (hs : s.rest = frame.key ++ rest) :
    rule.textsFrom s = rule.textsFrom (s.past frame.key rest) := by
  refine textsFrom_past hs fun ys zs he hz => hr.fails _ ?_
  obtain ⟨c, zs, rfl⟩ := List.exists_cons_of_ne_nil hz
  exact failsOn_key h (by rw [he]; exact List.mem_append_right _ List.mem_cons_self) _ _ rfl

theorem textsFrom_quoted {opening closing : Char} {content rest : List Char}
    (hr : StartsLike (valueOpening letters) rule) (hm : closing? opening = some closing)
    (hq : (valueOpening letters).search content = none)
    (hs : s.rest = opening :: (content ++ closing :: rest)) (hc : s.captures = []) :
    rule.textsFrom s = rule.textsFrom (s.past (opening :: (content ++ [closing])) rest) := by
  obtain ⟨accepts, hneeds⟩ := hr.needs
  have hmarks := mem_quotationMarks hm
  have hword := isWord_of_closing? hm
  refine textsFrom_quotation hr.fails hneeds hr.ends (hr.marks _ hmarks.1) (hr.marks _ hmarks.2)
    hword.1 hword.2 (fun ys zs he _ => hr.fails _ ?_) hs
  have hfails := fails_within (s := s.past [opening] (content ++ closing :: rest)) hq hr.ends
    (hr.marks _ hmarks.2) hword.2 rfl (by simpa [Spot.past] using hword.1) hc he
  rwa [Spot.past_past] at hfails

theorem textsFrom_clear (hr : StartsLike (valueOpening letters) rule)
    (h : letters ∈ frame.option.others)
    (ha : Alike (frame.fork first second) frame.Ahead (fun _ => True) rule)
    (hgo : ∀ s t, (frame.fork first second).Twins [] s t → s.captures = [] → t.captures = [] →
      rule.textsFrom s = rule.textsFrom t)
    {text : List Char} (hc : Clear frame.option text)
    (ht : (frame.fork first second).Twins (text ++ frame.key) s t)
    (hsc : s.captures = []) (htc : t.captures = []) : rule.textsFrom s = rule.textsFrom t := by
  induction hc generalizing s t with
  | nil =>
    rw [List.nil_append, ← List.append_nil frame.key] at ht
    have hl := ht.left
    have hright := ht.right
    rw [List.append_nil] at hl hright
    rw [textsFrom_key hr h hl, textsFrom_key hr h hright]
    exact hgo _ _ ht.past hsc htc
  | plain hm hp he hclear ih =>
    next c rest =>
    have hahead : frame.Ahead (c :: rest ++ frame.key) := ⟨_, rfl, .plain hm hp he hclear⟩
    have hl : s.rest = c :: (rest ++ frame.key ++ (frame.fork first second).left) := ht.left
    have hright : t.rest = c :: (rest ++ frame.key ++ (frame.fork first second).right) := ht.right
    rw [textsFrom_cons hl, textsFrom_cons hright, ha.texts_eq ht hahead]
    congr 1
    funext _
    exact ih ht.after hsc htc
  | quotation hm hn hq hclear ih =>
    next opening closing content rest =>
    have he : opening :: (content ++ closing :: rest) ++ frame.key =
        opening :: (content ++ [closing]) ++ (rest ++ frame.key) := by simp
    have hl : s.rest = opening :: (content ++ closing ::
        (rest ++ frame.key ++ (frame.fork first second).left)) := by
      rw [ht.left]
      simp
    have hright : t.rest = opening :: (content ++ closing ::
        (rest ++ frame.key ++ (frame.fork first second).right)) := by
      rw [ht.right]
      simp
    rw [he] at ht
    rw [textsFrom_quoted hr hm (hq letters h) hl hsc,
      textsFrom_quoted hr hm (hq letters h) hright htc]
    exact ih ht.past hsc htc

theorem twins_fill (frame : Frame) (first second : List Char) :
    (frame.fork first second).Twins (frame.before ++ frame.key) ⟨0, none, frame.fill first, []⟩
      ⟨0, none, frame.fill second, []⟩ :=
  ⟨rfl, rfl, Nat.zero_add _, Nat.zero_add _, rfl, rfl⟩

def found (rule : Pattern) (tail : List Char) : Option (List (String × List Char)) :=
  (rule.search tail).map fun m => m.captures.map fun c => (c.name, c.text)

theorem found_flag (hf : frame.IsInert first) (hs : frame.IsInert second)
    (h : rule ∈ flagRules) : found rule (frame.fill first) = found rule (frame.fill second) := by
  have hstart := startsLike_flag h
  have hmark := hstart.marks '\'' (by decide)
  have halike : Alike (frame.fork first second) (fun _ => True) (fun _ => True) rule :=
    alike_of_shuns hmark hmark rfl
  rw [found, found, map_search, map_search]
  have htwins := frame.twins_fill first second
  refine halike.textsFrom_eq htwins ?_
  rw [← List.append_nil (frame.before ++ frame.key)] at htwins
  have hin := List.mem_append_left (frame.option.otherRules.map Prod.snd) h
  exact textsFrom_literal hstart (hf rule hin) (hs rule hin) htwins.past rfl rfl

theorem alike_otherRule (h : (letters, rule) ∈ frame.option.otherRules) :
    Alike (frame.fork first second) frame.Ahead (fun _ => True) rule := by
  have hin : letters ∈ frame.option.others := List.mem_map_of_mem h
  generalize ho : frame.option.otherRules = rules at h
  cases hoption : frame.option <;> rw [hoption] at ho <;> subst ho <;>
    simp only [ValueOption.otherRules, List.mem_cons, Prod.mk.injEq, List.not_mem_nil,
      or_false] at h <;>
    rcases h with ⟨rfl, rfl⟩ | ⟨rfl, rfl⟩
  · exact alike_comment hin
  · exact alike_reference
  · exact alike_default hin
  · exact alike_reference

theorem found_value (hf : frame.IsInert first) (hs : frame.IsInert second)
    (h : (letters, rule) ∈ frame.option.otherRules) :
    found rule (frame.fill first) = found rule (frame.fill second) := by
  have hstart := startsLike_value h
  have hin : letters ∈ frame.option.others := List.mem_map_of_mem h
  have hrule : rule ∈ flagRules ++ frame.option.otherRules.map Prod.snd :=
    List.mem_append_right _ (List.mem_map.2 ⟨_, h, rfl⟩)
  rw [found, found, map_search, map_search]
  exact textsFrom_clear hstart hin (alike_otherRule h)
    (fun s t => textsFrom_literal hstart (hf rule hrule) (hs rule hrule)) frame.clear
    (frame.twins_fill first second) rfl rfl

end Frame

end SchemaText.Sql.ColumnClause
