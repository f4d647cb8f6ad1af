import SchemaText.Proofs.Sql.Name
import SchemaText.Proofs.Sql.TextCharacters
import SchemaText.Proofs.Text.Trim
import SchemaText.Schema
/-! What is left of the names of the core grammar when quotes and blanks are taken off. -/

namespace SchemaText.Sql.Core

open Diagram (isPlain)
open Identifier

theorem filter_isEnclosing {text : List Char} (h : text.all isStemChar) :
    text.filter (fun c => !isEnclosing c) = text :=
  filter_eq_self_of_forall (by decide) (List.all_eq_true.1 h)

theorem firm_word (w : Word) : Text.Firm w.chars :=
  Text.firm_of_forall w.ne_nil fun c hc => Diagram.isBlank_eq_false_of_isPlain (w.plain c hc)

theorem Word.trim (w : Word) : Text.trim w.chars = w.chars :=
  (firm_word w).trim

theorem Word.ne_separator {sep : Char} (h : isPlain sep = false) (w : Word) :
    ∀ c ∈ w.chars, (c == sep) = false := by
  intro c hc
  have hne : c ≠ sep := by
    rintro rfl
    simp [w.plain c hc] at h
  simpa using hne

theorem split_word {sep : Char} (h : isPlain sep = false) (w : Word) :
    Text.split (· == sep) w.chars = [w.chars] :=
  Text.split_eq_singleton (w.ne_separator h)

theorem clean_word (w : Word) : clean w.chars = w.chars := by
  rw [clean_eq_filter fun c hc => Diagram.isBlank_eq_false_of_isPlain (w.plain c hc),
    filter_isEnclosing w.all_stem]

theorem clean_id (id : Id) : clean id.chars = id.chars := by
  unfold clean
  rw [filter_isEnclosing id.all_stem]
  unfold Id.chars
  split
  · rw [split_word (by decide) id.name, List.map_singleton, id.name.trim, Text.intercalate_cons,
      List.flatMap_nil, List.append_nil]
  · next schema _ =>
    rw [Text.split_append_cons (by decide), split_word (by decide) schema,
      split_word (by decide) id.name]
    simp [schema.trim, id.name.trim, List.intercalate]

theorem cleanList_listed {α : Type} {chars plain : α → List Char} {xs : List α} (hne : xs ≠ [])
    (hcomma : ∀ x, ∀ c ∈ chars x, (c == ',') = false) (htrim : ∀ x, Text.trim (chars x) ≠ [])
    (hclean : ∀ x, clean (chars x) = plain x) :
    cleanList (", ".toList.intercalate (xs.map chars)) = xs.map plain := by
  obtain ⟨x, xs, rfl⟩ := List.exists_cons_of_ne_nil hne
  have hparts : ∀ part ∈ (x :: xs).map chars, ∀ c ∈ part, (c == ',') = false := by
    intro part hp
    obtain ⟨y, _, rfl⟩ := List.mem_map.1 hp
    exact hcomma y
  have hkeep : (chars x :: xs.map fun y => ' ' :: chars y).filter
      (fun part => Text.trim part ≠ []) = chars x :: xs.map fun y => ' ' :: chars y := by
    refine List.filter_eq_self.2 fun part hp => ?_
    rcases List.mem_cons.1 hp with rfl | hp
    · exact decide_eq_true (htrim x)
    · obtain ⟨y, _, rfl⟩ := List.mem_map.1 hp
      rw [Text.trim_space_cons]
      exact decide_eq_true (htrim y)
  unfold cleanList
  rw [List.map_cons, Text.split_listed hparts, List.map_map]
  refine (congrArg (List.map clean) hkeep).trans ?_
  rw [List.map_cons, hclean x, List.map_map, List.map_cons]
  exact congrArg (plain x :: ·) (List.map_congr_left fun y _ =>
    (clean_space_cons (chars y)).trans (hclean y))

theorem cleanList_namesText {words : List Word} (h : words ≠ []) :
    cleanList (namesText words) = words.map Word.chars :=
  cleanList_listed h (Word.ne_separator (by decide)) (fun w => by simp [w.trim, w.ne_nil])
    clean_word

end SchemaText.Sql.Core
