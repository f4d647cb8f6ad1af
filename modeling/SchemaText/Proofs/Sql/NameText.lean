import SchemaText.Proofs.Sql.Grammar
import SchemaText.Proofs.Sql.NameSequence
/-! The names of the core grammar, as the patterns of SQL take them. -/

namespace SchemaText.Sql.Core

open Pattern Statement
open Diagram (isPlain)
open Text (Stops stops_cons isBlank isWord)

inductive IdEnd : List Char → Prop where
  | parenthesis (rest : List Char) : IdEnd ('(' :: rest)
  | space {e : String} (h : e ∈ nameEnds) (rest : List Char) : IdEnd (' ' :: (e.toList ++ rest))

section Words

variable {rest : List Char}

theorem Word.exists_cons (w : Word) : ∃ c cs, w.chars = c :: cs ∧ isPlain c := by
  obtain ⟨c, cs, hc⟩ := List.exists_cons_of_ne_nil w.ne_nil
  exact ⟨c, cs, hc, w.plain c (by simp [hc])⟩

theorem Word.stops (w : Word) (rest : List Char) : Stops isBlank (w.chars ++ rest) := by
  obtain ⟨c, cs, hc, hp⟩ := w.exists_cons
  rw [hc]
  exact stops_cons.2 (Diagram.isBlank_eq_false_of_isPlain hp)

theorem Word.isWord_of_mem (w : Word) : ∀ c ∈ w.chars, isWord c :=
  fun c hc => Text.isWord_of_isPlain (w.plain c hc)

theorem ne_of_isPlain {c d : Char} (h : isPlain c) (k : isPlain d = false) : c ≠ d := by
  rintro rfl
  simp [h] at k

/-- A name without a schema. -/
def Word.id (w : Word) : Id :=
  ⟨none, w⟩

theorem Word.isName (w : Word) : Identifier.IsName w.chars :=
  .word w.ne_nil w.isWord_of_mem

theorem takes_name (w : Word) (h : Stops isWord rest) : Identifier.name.Takes w.chars rest [] :=
  w.isName.takes h

end Words

section Ids

variable {rest : List Char}

theorem IdEnd.wordEnd (h : IdEnd rest) : WordEnd nameEnds rest := by
  cases h with
  | parenthesis rest => exact .mark (by decide) rest
  | space h rest => exact .space h rest

theorem IdEnd.failsOn_dot (h : IdEnd rest) : Identifier.dotted.FailsOn rest := by
  refine FailsOn.of_forall fun offset before captures β goOn => ?_
  cases h with
  | parenthesis rest => rfl
  | space h rest =>
    simp only [nameEnds, List.mem_cons, List.not_mem_nil, or_false] at h
    rcases h with rfl | rfl | rfl | rfl <;> rfl

theorem Id.stops (id : Id) (rest : List Char) : Stops isBlank (id.chars ++ rest) := by
  unfold Id.chars
  split
  · exact id.name.stops rest
  · next schema _ =>
    rw [List.append_assoc]
    exact schema.stops _

theorem takes_id (id : Id) (h : IdEnd rest) : Identifier.qualifiedName.Takes id.chars rest [] := by
  unfold Id.chars
  split
  · exact id.name.isName.takes_unqualified h.wordEnd.stops h.failsOn_dot
  · next schema _ =>
    exact schema.isName.takes_qualified id.name.isName h.wordEnd.stops h.failsOn_dot

theorem failsOn_keyword_id {letters : String} {q : Pattern} (hl : letters.toList.all isPlain)
    (id : Id) (h : IdEnd rest) (hq : q.Bars rest) :
    (word letters ++ (blanks ++ q)).FailsOn (id.chars ++ rest) := by
  unfold Id.chars
  split
  · exact failsOn_keyword_append hl id.name.plain h.wordEnd.stops fun _ => hq
  · next schema _ =>
    rw [List.append_assoc]
    exact failsOn_keyword_append hl schema.plain (stops_cons.2 rfl)
      fun _ => .stop (stops_cons.2 rfl)

end Ids

end SchemaText.Sql.Core
