import SchemaText.Proofs.Pattern.Contained
import SchemaText.Proofs.Sql.ColumnRead
/-! The name and the type of a column, as the clause of the column is cut before its tail. -/

namespace SchemaText.Sql.ColumnClause

open Pattern Statement
open Sql.Core (textsOf definitionTail typePattern anchored_definition)
open Identifier (IsName nameMarks)
open Text (Stops stops_nil stops_cons isBlank isWord)

/-- The type numbers its rows by itself. -/
def isSerial (type : List Char) : Bool :=
  serialTypes.contains (String.ofList ((Text.lower type).takeWhile (· ≠ '(')))

inductive IsArguments : List Char → List Char → Prop where
  | none {rest : List Char} (h : ∀ more, rest = '(' :: more → ')' ∉ more) : IsArguments [] rest
  | list {inner : List Char} (h : ')' ∉ inner) (rest : List Char) :
    IsArguments ('(' :: (inner ++ [')'])) rest

/-- The pieces of a clause before its tail. -/
structure Head where
  name : List Char
  space : List Char
  word : List Char
  arguments : List Char
  gap : List Char

namespace Head

variable (head : Head)

def type : List Char :=
  head.word ++ head.arguments

def chars : List Char :=
  head.name ++ (head.space ++ (head.type ++ head.gap))

/-- Each of the pieces is what a clause with this tail has there. -/
structure Precedes (tail : List Char) : Prop where
  name : IsName head.name
  space_ne : head.space ≠ []
  space : ∀ c ∈ head.space, isBlank c
  word_ne : head.word ≠ []
  word : ∀ c ∈ head.word, isWord c
  stops : Stops isWord (head.arguments ++ (head.gap ++ tail))
  arguments : IsArguments head.arguments (head.gap ++ tail)
  gap : ∀ c ∈ head.gap, isBlank c
  tail : Stops isBlank tail

end Head

section Names

variable {rest taken : List Char} {s t : Spot}

theorem isName_of_meets_enclosed {opening closing : Char} (hm : (opening, closing) ∈ nameMarks)
    (h : (Identifier.enclosed opening closing).Meets s t) (hsp : s.Spans taken t) :
    IsName taken := by
  obtain ⟨v, ⟨u, ⟨c, rest, hr, hc, rfl⟩, hu⟩, ⟨d, rest', hr', hd, rfl⟩⟩ := h
  obtain rfl := beq_iff_eq.1 hc
  obtain rfl := beq_iff_eq.1 hd
  obtain ⟨content, hcontent, hne, hall⟩ := oneOrMore_meets hu
  obtain rfl := hsp.eq (((Spot.spans_after hr).trans hcontent).trans (Spot.spans_after hr'))
  exact .enclosed hm hne fun hin => by simpa using hall _ hin

theorem isName_of_meets (h : Identifier.name.Meets s t) (hsp : s.Spans taken t) : IsName taken := by
  rcases h with (h | h | h) | h
  · exact isName_of_meets_enclosed (by decide) h hsp
  · exact isName_of_meets_enclosed (by decide) h hsp
  · exact isName_of_meets_enclosed (by decide) h hsp
  · obtain ⟨run, hrun, hne, hall⟩ := oneOrMore_meets h
    obtain rfl := hsp.eq hrun
    exact .word hne hall

end Names

section Arguments

variable {arguments rest : List Char}

def argumentsPattern : Pattern :=
  char '(' ++ most (· ≠ ')') ++ char ')'

theorem exists_arguments (text : List Char) :
    ∃ arguments rest, text = arguments ++ rest ∧ IsArguments arguments rest := by
  by_cases h : ∃ more, text = '(' :: more ∧ ')' ∈ more
  · obtain ⟨more, rfl, hm⟩ := h
    obtain ⟨inner, rest, rfl, hn⟩ := List.eq_append_cons_of_mem hm
    exact ⟨'(' :: (inner ++ [')']), rest, by simp, .list hn rest⟩
  · exact ⟨[], text, rfl, .none fun more he hm => h ⟨more, he, hm⟩⟩

theorem IsArguments.takes (h : IsArguments arguments rest) :
    (optional argumentsPattern).Takes arguments rest [] := by
  cases h with
  | none h =>
    refine FailsOn.optional fun s hs => fails_of_forall_not_meets ?_
    rintro t ⟨v, ⟨u, ⟨c, more, hr, hc, rfl⟩, hu⟩, ⟨d, more', hr', hd, rfl⟩⟩
    obtain rfl := beq_iff_eq.1 hc
    obtain rfl := beq_iff_eq.1 hd
    obtain ⟨run, hrun, _⟩ := Spot.mem_run_iff.1 hu
    refine h more (hs.symm.trans hr) ?_
    have he : more = run ++ ')' :: more' := hrun.rest.trans (congrArg _ hr')
    rw [he]
    exact List.mem_append_right _ List.mem_cons_self
  | list hn rest =>
    next inner =>
    have hin : ∀ c ∈ inner, (fun c => decide (c ≠ ')')) c := by
      intro c hc
      simpa using ne_of_mem_of_not_mem hc hn
    have hmost : (most fun c => decide (c ≠ ')')).Takes inner ([')'] ++ rest) [] :=
      takes_most hin (stops_cons.2 (by decide))
    exact (((takes_char '(' _).append hmost).append (takes_char ')' rest)).optional

end Arguments

section Clauses

variable {head : Head} {text tail : List Char} {m : Match}

theorem Head.Precedes.takes (h : head.Precedes tail) :
    definitionTail.Takes (head.chars ++ tail) []
      [("tail", tail), ("type", head.type), ("name", head.name)] := by
  have hword : (oneOrMore isWord).Takes head.word (head.arguments ++ (head.gap ++ tail)) [] :=
    takes_oneOrMore h.word_ne h.word h.stops
  have htype : typePattern.Takes head.type (head.gap ++ tail) [] := hword.append h.arguments.takes
  have hstops : Stops isBlank (head.type ++ (head.gap ++ tail)) := by
    obtain ⟨c, word, hc⟩ := List.exists_cons_of_ne_nil h.word_ne
    rw [Head.type, hc]
    exact stops_cons.2 (Text.isBlank_eq_false_of_isWord (h.word c (by simp [hc])))
  have hname : Identifier.name.Takes head.name
      (head.space ++ (head.type ++ (head.gap ++ tail))) [] := by
    refine h.name.takes ?_
    obtain ⟨c, space, hc⟩ := List.exists_cons_of_ne_nil h.space_ne
    rw [hc]
    refine stops_cons.2 (Bool.eq_false_iff.2 fun hw => ?_)
    have hb := Text.isBlank_eq_false_of_isWord hw
    rw [h.space c (by simp [hc])] at hb
    cases hb
  have he : head.chars ++ tail =
      head.name ++ (head.space ++ (head.type ++ (head.gap ++ tail))) := by
    simp [Head.chars]
  rw [he]
  exact Core.takes_pieces hname h.space_ne h.space htype hstops h.gap h.tail

theorem Head.Precedes.exists_matchStart (h : head.Precedes tail) :
    ∃ m, definition.matchStart (head.chars ++ tail) = some m ∧
      textsOf m = [("tail", tail), ("type", head.type), ("name", head.name)] :=
  anchored_definition.exists_matchStart h.takes

theorem exists_name (h : definition.matchStart text = some m) :
    ∃ name space c rest, text = name ++ (space ++ c :: rest) ∧ IsName name ∧ space ≠ [] ∧
      (∀ d ∈ space, isBlank d) ∧ isWord c := by
  unfold matchStart at h
  rw [Agrees.matchAt anchored_definition] at h
  obtain ⟨_, ⟨_, ⟨_, rfl⟩, ht⟩, _⟩ := meets_of_matchAt h
  obtain ⟨u, ⟨v, hname, rfl⟩, w, hspace, x, ⟨y, ⟨z, hword, _⟩, _⟩, _⟩ := ht
  obtain ⟨_, ⟨c, rest, hr, hc, _⟩, _⟩ := hword
  obtain ⟨name, hspans⟩ := hname.exists_spans
  obtain ⟨space, hblanks, hne, hall⟩ := oneOrMore_meets hspace
  have htext : text = name ++ v.rest := hspans.rest
  have hrest : v.rest = space ++ w.rest := hblanks.rest
  exact ⟨name, space, c, rest, by rw [htext, hrest, hr], isName_of_meets hname hspans, hne, hall,
    hc⟩

theorem exists_head (h : definition.matchStart text = some m) :
    ∃ (head : Head) (tail : List Char), text = head.chars ++ tail ∧ head.Precedes tail ∧
      textsOf m = [("tail", tail), ("type", head.type), ("name", head.name)] := by
  obtain ⟨name, space, c, rest, rfl, hname, hne, hspace, hc⟩ := exists_name h
  obtain ⟨arguments, behind, hbehind, harguments⟩ := exists_arguments (rest.dropWhile isWord)
  let head : Head := ⟨name, space, c :: rest.takeWhile isWord, arguments, behind.takeWhile isBlank⟩
  have hcut : head.gap ++ behind.dropWhile isBlank = behind := List.takeWhile_append_dropWhile
  have hprecedes : head.Precedes (behind.dropWhile isBlank) :=
    { name := hname
      space_ne := hne
      space := hspace
      word_ne := List.cons_ne_nil _ _
      word := List.forall_mem_cons.2 ⟨hc, fun d hd => List.mem_takeWhile_imp hd⟩
      stops := by
        rw [hcut, ← hbehind]
        exact Text.stops_dropWhile isWord rest
      arguments := by rwa [hcut]
      gap := fun d hd => List.mem_takeWhile_imp hd
      tail := Text.stops_dropWhile isBlank behind }
  have htext : name ++ (space ++ c :: rest) = head.chars ++ behind.dropWhile isBlank := by
    have hrest : rest.takeWhile isWord ++ (arguments ++ behind) = rest := by
      rw [← hbehind, List.takeWhile_append_dropWhile]
    calc name ++ (space ++ c :: rest)
      _ = name ++ (space ++ c :: (rest.takeWhile isWord ++ (arguments ++ behind))) := by rw [hrest]
      _ = name ++ (space ++ c :: (rest.takeWhile isWord ++
          (arguments ++ (head.gap ++ behind.dropWhile isBlank)))) := by rw [hcut]
      _ = head.chars ++ behind.dropWhile isBlank := by simp [head, Head.chars, Head.type]
  obtain ⟨m', hm, hx⟩ := hprecedes.exists_matchStart
  rw [← htext, h] at hm
  obtain rfl := Option.some.inj hm
  exact ⟨head, _, htext, hprecedes, hx⟩

end Clauses

end SchemaText.Sql.ColumnClause
