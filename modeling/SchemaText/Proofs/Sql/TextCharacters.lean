import SchemaText.Proofs.Sql.Grammar
import SchemaText.Proofs.Text.Letter
import SchemaText.Proofs.Text.Split
/-! The characters of scripts in the core grammar, among which there are no comments. -/

namespace SchemaText.Sql.Core

open Diagram (isPlain)

def isListChar (c : Char) : Bool :=
  isPlain c || [' ', ','].contains c

def isStemChar (c : Char) : Bool :=
  isPlain c || [' ', ',', '.', '\'', '(', ')'].contains c

theorem isStemChar_of_isListChar {c : Char} (h : isListChar c) : isStemChar c := by
  unfold isListChar at h
  unfold isStemChar
  rcases Bool.or_eq_true_iff.1 h with h | h
  · rw [h]
    rfl
  · simp only [List.contains_eq_mem, List.mem_cons, List.not_mem_nil, or_false,
      decide_eq_true_eq] at h
    rcases h with rfl | rfl <;> rfl

theorem all_intercalate {p : Char → Bool} {sep : List Char} {parts : List (List Char)}
    (hs : sep.all p) (h : ∀ part ∈ parts, part.all p) : (sep.intercalate parts).all p := by
  rw [List.all_eq_true]
  intro c hc
  rcases Text.mem_intercalate hc with hc | ⟨part, hp, hc⟩
  · exact List.all_eq_true.1 hs c hc
  · exact List.all_eq_true.1 (h part hp) c hc

theorem Word.all {p : Char → Bool} (w : Word) (h : ∀ c, isPlain c → p c) : w.chars.all p :=
  List.all_eq_true.2 fun c hc => h c (w.plain c hc)

theorem isListChar_of_isPlain (c : Char) (h : isPlain c) : isListChar c := by
  unfold isListChar
  rw [h]
  rfl

theorem Word.all_stem (w : Word) : w.chars.all isStemChar :=
  w.all fun c h => isStemChar_of_isListChar (isListChar_of_isPlain c h)

theorem all_namesText (names : List Word) : (namesText names).all isListChar := by
  refine all_intercalate (by decide) fun part hp => ?_
  obtain ⟨w, _, rfl⟩ := List.mem_map.1 hp
  exact w.all isListChar_of_isPlain

theorem all_stem_namesText (names : List Word) : (namesText names).all isStemChar :=
  List.all_eq_true.2 fun c hc =>
    isStemChar_of_isListChar (List.all_eq_true.1 (all_namesText names) c hc)

theorem all_append {p : Char → Bool} {a b : List Char} (h : a.all p) (k : b.all p) :
    (a ++ b).all p := by
  rw [List.all_append, h, k]
  rfl

theorem all_enclosed {text : List Char} (h : text.all isStemChar) :
    (enclosed text).all isStemChar :=
  all_append (a := ['(']) (by decide) (all_append h (by decide))

theorem Id.all_stem (id : Id) : id.chars.all isStemChar := by
  unfold Id.chars
  split
  · exact id.name.all_stem
  · next schema _ =>
    exact all_append schema.all_stem (all_append (a := ['.']) (by decide) id.name.all_stem)

theorem TypeName.all_stem (type : TypeName) : type.chars.all isStemChar := by
  unfold TypeName.chars
  refine all_append type.word.all_stem ?_
  split
  · rfl
  · refine all_enclosed (all_intercalate (by decide) fun part hp => ?_)
    obtain ⟨w, _, rfl⟩ := List.mem_map.1 hp
    exact w.all_stem

theorem all_flags (flags : List Flag) : (flags.flatMap Flag.chars).all isStemChar := by
  induction flags with
  | nil => rfl
  | cons flag flags ih =>
    rw [List.flatMap_cons]
    refine all_append ?_ ih
    cases flag <;> decide

theorem all_foreignKeyText (pairs : List (Word × Word)) (target : Id) :
    (foreignKeyText pairs target).all isStemChar := by
  have hnames (names : List Word) := all_enclosed (all_stem_namesText names)
  exact all_append (all_append (all_append (all_append (by decide) (hnames _)) (by decide))
    target.all_stem) (hnames _)

theorem TableClause.all_stem (clause : TableClause) : clause.chars.all isStemChar := by
  cases clause with
  | column column =>
    exact all_append column.name.all_stem
      (all_append (a := [' ']) (by decide) (all_append column.type.all_stem (all_flags _)))
  | primaryKey columns => exact all_append (by decide) (all_enclosed (all_stem_namesText columns))
  | foreignKey pairs target => exact all_foreignKeyText pairs target
  | unique columns => exact all_append (by decide) (all_enclosed (all_stem_namesText columns))

theorem all_bodyText (clauses : List TableClause) : (bodyText clauses).all isStemChar := by
  refine all_intercalate (by decide) fun part hp => ?_
  obtain ⟨clause, _, rfl⟩ := List.mem_map.1 hp
  exact clause.all_stem

theorem all_valuesText (values : List Word) : (valuesText values).all isStemChar := by
  refine all_intercalate (by decide) fun part hp => ?_
  obtain ⟨value, _, rfl⟩ := List.mem_map.1 hp
  exact all_append (a := ['\'']) (by decide) (all_append value.all_stem (by decide))

theorem Definition.all_stem (definition : Definition) : definition.stem.all isStemChar := by
  cases definition with
  | table id clauses =>
    exact all_append (all_append (all_append (by decide) id.all_stem) (by decide))
      (all_enclosed (all_bodyText clauses))
  | index unique name owner columns =>
    have hopen : (if unique then "CREATE UNIQUE INDEX ".toList
        else "CREATE INDEX ".toList).all isStemChar := by
      cases unique <;> decide
    exact all_append (all_append (all_append (all_append (all_append hopen name.all_stem)
      (by decide)) owner.all_stem) (by decide)) (all_enclosed (all_stem_namesText columns))
  | foreignKey owner pairs target =>
    exact all_append (all_append (all_append (by decide) owner.all_stem) (by decide))
      (all_foreignKeyText pairs target)
  | enumeration id values =>
    exact all_append (all_append (all_append (by decide) id.all_stem) (by decide))
      (all_enclosed (all_valuesText values))

end SchemaText.Sql.Core
