import SchemaText.Proofs.Sql.Cleaned
import SchemaText.Proofs.Sql.NameText
import SchemaText.Proofs.Sql.Written
/-! Names between marks, as the patterns of SQL take them and as they are cleaned. -/

namespace SchemaText.Sql.Written

open Pattern Statement
open Sql.Core (Word IdEnd)
open Diagram (isPlain)
open Identifier (clean cleanList isEnclosing)
open Text (Stops stops_cons isBlank isWord)

variable {rest : List Char}

section Names

theorem Name.chars_eq (n : Name) :
    n.chars = n.word.chars ∨ ∃ c, (c = '"' ∨ c = '`') ∧ n.chars = c :: (n.word.chars ++ [c]) := by
  unfold chars
  split
  · exact .inl rfl
  · next c hc => exact .inr ⟨c, n.mark_eq c hc, rfl⟩

theorem Name.chars_ne_nil (n : Name) : n.chars ≠ [] := by
  rcases n.chars_eq with h | ⟨c, _, h⟩
  · rw [h]
    exact n.word.ne_nil
  · rw [h]
    exact List.cons_ne_nil _ _

theorem Name.all {p : Char → Bool} (n : Name) (h : ∀ c, isPlain c → p c) (hd : p '"') (hb : p '`') :
    n.chars.all p := by
  rcases n.chars_eq with hc | ⟨c, hc, he⟩
  · rw [hc]
    exact n.word.all h
  · have hm : p c := by rcases hc with rfl | rfl <;> assumption
    rw [he]
    have hmark : [c].all p := by simpa using hm
    exact Core.all_append hmark (Core.all_append (n.word.all h) hmark)

theorem isBlank_of_mark {c : Char} (h : c = '"' ∨ c = '`') : isBlank c = false := by
  rcases h with rfl | rfl <;> decide

theorem Name.firm (n : Name) : Text.Firm n.chars := by
  rcases n.chars_eq with h | ⟨c, hc, h⟩
  · rw [h]
    exact Core.firm_word n.word
  · have hb := isBlank_of_mark hc
    rw [h]
    have hmark : ∃ d, [c].head? = some d ∧ isBlank d = false := ⟨c, rfl, hb⟩
    exact Text.firm_append hmark n.word.chars hmark

theorem Name.stops (n : Name) (rest : List Char) : Stops isBlank (n.chars ++ rest) := by
  obtain ⟨c, hc, hb⟩ := n.firm.head
  obtain ⟨d, ds, hd⟩ := List.exists_cons_of_ne_nil n.chars_ne_nil
  rw [hd] at hc ⊢
  obtain rfl : d = c := by simpa using hc
  exact stops_cons.2 hb

theorem Name.isName (n : Name) : Identifier.IsName n.chars := by
  rcases n.chars_eq with h | ⟨c, hc, h⟩
  · rw [h]
    exact .word n.word.ne_nil n.word.isWord_of_mem
  · have hm : (c, c) ∈ Identifier.nameMarks ∧ isPlain c = false := by
      rcases hc with rfl | rfl <;> decide
    rw [h]
    refine .enclosed hm.1 n.word.ne_nil fun hin => ?_
    exact Core.ne_of_isPlain (n.word.plain c hin) hm.2 rfl

theorem takes_name (n : Name) (h : Stops isWord rest) : Identifier.name.Takes n.chars rest [] :=
  n.isName.takes h

theorem failsOn_keyword_name {letters : String} {q : Pattern} (hl : letters.toList.all isPlain)
    (hn : spells letters [] = false) (n : Name) (hs : Stops isWord rest)
    (h : spells letters n.word.chars → q.Bars rest) :
    (word letters ++ (blanks ++ q)).FailsOn (n.chars ++ rest) := by
  rcases n.chars_eq with hc | ⟨c, hc, he⟩
  · rw [hc]
    exact failsOn_keyword_append hl n.word.plain hs h
  · have hstops : Stops isWord (n.chars ++ rest) := by
      rw [he]
      rcases hc with rfl | rfl <;> exact stops_cons.2 rfl
    have hnone : ∀ d ∈ ([] : List Char), isPlain d := by simp
    have hfails : (word letters ++ (blanks ++ q)).FailsOn ([] ++ (n.chars ++ rest)) :=
      failsOn_keyword_append hl hnone hstops fun hsp => by simp [hn] at hsp
    exact hfails

end Names

section Ids

theorem Id.chars_eq (id : Id) :
    id.schema = none ∧ id.chars = id.name.chars ∨
      ∃ schema, id.schema = some schema ∧ id.chars = schema.chars ++ ('.' :: id.name.chars) := by
  unfold chars
  split
  · next h => exact .inl ⟨h, rfl⟩
  · next schema h => exact .inr ⟨schema, h, rfl⟩

theorem Id.stops (id : Id) (rest : List Char) : Stops isBlank (id.chars ++ rest) := by
  rcases id.chars_eq with ⟨_, h⟩ | ⟨schema, _, h⟩
  · rw [h]
    exact id.name.stops rest
  · rw [h, List.append_assoc]
    exact schema.stops _

theorem takes_id (id : Id) (h : IdEnd rest) : Identifier.qualifiedName.Takes id.chars rest [] := by
  rcases id.chars_eq with ⟨_, hc⟩ | ⟨schema, _, hc⟩
  · rw [hc]
    exact id.name.isName.takes_unqualified h.wordEnd.stops h.failsOn_dot
  · rw [hc]
    exact schema.isName.takes_qualified id.name.isName h.wordEnd.stops h.failsOn_dot

theorem takes_nil_ifNotExists (id : Id) (h : IdEnd rest) :
    ifNotExists.Takes [] (id.chars ++ rest) [] := by
  have hnot : (phrase ["NOT", "EXISTS"] ++ blanks).Bars rest :=
    h.wordEnd.bars (by decide) fun e he xs =>
      (rejects_word (by decide) (blanks ++ phrase ["EXISTS"]) e he xs).append blanks
  have hf : (word "IF" ++ (blanks ++ (phrase ["NOT", "EXISTS"] ++ blanks))).FailsOn
      (id.chars ++ rest) := by
    rcases id.chars_eq with ⟨_, hc⟩ | ⟨schema, _, hc⟩
    · rw [hc]
      exact failsOn_keyword_name (by decide) (by decide) id.name h.wordEnd.stops fun _ => hnot
    · rw [hc, List.append_assoc]
      exact failsOn_keyword_name (by decide) (by decide) schema (stops_cons.2 rfl) fun _ =>
        .stop (stops_cons.2 rfl)
  exact FailsOn.optional fun s hs _ goOn => hf s hs goOn

end Ids

section Cleaning

theorem filter_name (n : Name) : n.chars.filter (fun c => !isEnclosing c) = n.word.chars := by
  have hword := Core.filter_isEnclosing n.word.all_stem
  rcases n.chars_eq with h | ⟨c, hc, h⟩
  · rw [h, hword]
  · have hm : isEnclosing c = true := by rcases hc with rfl | rfl <;> rfl
    simp [h, hm, hword]

theorem filter_id (id : Id) : id.chars.filter (fun c => !isEnclosing c) = id.plain.chars := by
  have hdot (xs : List Char) : ('.' :: xs).filter (fun c => !isEnclosing c) =
      '.' :: xs.filter fun c => !isEnclosing c := rfl
  rcases id.chars_eq with ⟨hs, hc⟩ | ⟨schema, hs, hc⟩
  · rw [hc, filter_name]
    simp [Id.plain, Core.Id.chars, hs]
  · rw [hc, List.filter_append, hdot, filter_name, filter_name]
    simp [Id.plain, Core.Id.chars, hs]

theorem clean_of_filter {written plain : List Char}
    (h : written.filter (fun c => !isEnclosing c) = plain) (k : plain.all Core.isStemChar) :
    clean written = clean plain := by
  unfold clean
  rw [h, Core.filter_isEnclosing k]

theorem clean_name (n : Name) : clean n.chars = n.word.chars := by
  rw [clean_of_filter (filter_name n) n.word.all_stem, Core.clean_word]

theorem clean_id (id : Id) : clean id.chars = id.plain.chars := by
  rw [clean_of_filter (filter_id id) id.plain.all_stem, Core.clean_id]

theorem notMem_comma (n : Name) : ∀ c ∈ n.chars, (c == ',') = false := by
  have h := List.all_eq_true.1 (n.all (p := fun c => !(c == ','))
    (fun c hc => by simpa using Core.ne_of_isPlain hc (by decide)) rfl rfl)
  exact fun c hc => by simpa using h c hc

theorem cleanList_namesText {names : List Name} (h : names ≠ []) :
    cleanList (namesText names) = names.map fun n => n.word.chars :=
  Core.cleanList_listed h notMem_comma (fun n => by simp [n.firm.trim, n.chars_ne_nil]) clean_name

theorem cleanList_name (n : Name) : cleanList n.chars = [n.word.chars] := by
  have hne : [n] ≠ [] := List.cons_ne_nil _ _
  have h := cleanList_namesText hne
  rwa [namesText, List.map_singleton, Text.intercalate_cons, List.flatMap_nil, List.append_nil] at h

end Cleaning

end SchemaText.Sql.Written
