import SchemaText.Proofs.Sql.ConstraintRead
import SchemaText.Proofs.Sql.Name
import SchemaText.Proofs.Sql.NameSequence
import SchemaText.Proofs.Sql.OptionValue
/-! Lists and sequences of names without marks, and the names of constraints, in which there are
hyphens as well: what is left of them when they are cleaned. -/

namespace SchemaText.Sql

open Pattern
open ColumnClause (BareName)
open Sql.Core (enclosed isInner)
open Text (Stops stops_cons isBlank isWord)

section Names

def ColumnClause.BareName.text (name : BareName) : String :=
  String.ofList name.chars

def isLabelChar (c : Char) : Bool :=
  isWord c || c == '-'

/-- The name of a constraint. -/
structure Label where
  chars : List Char
  ne_nil : chars ≠ []
  label : ∀ c ∈ chars, isLabelChar c

def Label.text (label : Label) : String :=
  String.ofList label.chars

/-- One or more of a kind. -/
structure Several (α : Type) where
  first : α
  more : List α

def Several.list {α : Type} (several : Several α) : List α :=
  several.first :: several.more

theorem Several.list_ne_nil {α : Type} (several : Several α) : several.list ≠ [] :=
  List.cons_ne_nil _ _

/-- Names with commas between them. -/
def listed (names : List BareName) : List Char :=
  ", ".toList.intercalate (names.map BareName.chars)

def dotted (names : Several BareName) : List Char :=
  ['.'].intercalate (names.list.map BareName.chars)

end Names

section Labels

theorem isBlank_eq_false_of_isLabelChar {c : Char} (h : isLabelChar c) : isBlank c = false := by
  rcases Bool.or_eq_true_iff.1 h with h | h
  · exact Text.isBlank_eq_false_of_isWord h
  · rw [beq_iff_eq.1 h]
    rfl

variable (label : Label)

theorem Label.exists_cons : ∃ c cs, label.chars = c :: cs ∧ isLabelChar c := by
  obtain ⟨c, cs, hc⟩ := List.exists_cons_of_ne_nil label.ne_nil
  exact ⟨c, cs, hc, label.label c (by rw [hc]; exact List.mem_cons_self)⟩

theorem Label.stops (rest : List Char) : Stops isBlank (label.chars ++ rest) := by
  obtain ⟨c, cs, hc, hl⟩ := label.exists_cons
  rw [hc]
  exact stops_cons.2 (isBlank_eq_false_of_isLabelChar hl)

theorem Label.failsOn_quoted (rest : List Char) :
    Identifier.quoted.FailsOn (label.chars ++ rest) := by
  obtain ⟨c, cs, hc, hl⟩ := label.exists_cons
  rw [hc]
  exact Identifier.failsOn_quoted_of hl (by decide) _

theorem Label.takes {rest : List Char} (h : Stops isLabelChar rest) :
    Identifier.constraintName.Takes label.chars rest [] :=
  (label.failsOn_quoted rest).orElse_takes (takes_oneOrMore label.ne_nil label.label h)

theorem clean_of_isLabelChar {text : List Char} (h : ∀ c ∈ text, isLabelChar c || c == '.') :
    Identifier.clean text = text := by
  have hblank : ∀ c ∈ text, isBlank c = false := by
    intro c hc
    rcases Bool.or_eq_true_iff.1 (h c hc) with hl | hd
    · exact isBlank_eq_false_of_isLabelChar hl
    · rw [beq_iff_eq.1 hd]
      rfl
  rw [Identifier.clean_eq_filter hblank]
  exact Identifier.filter_eq_self_of_forall (by decide) h

theorem Label.cleanName : Draft.cleanName label.chars = label.text := by
  unfold Draft.cleanName
  rw [clean_of_isLabelChar fun c hc => by rw [label.label c hc]; rfl]
  rfl

end Labels

section Bare

variable {rest : List Char}

theorem isLabelChar_of_isWord {c : Char} (h : isWord c) : isLabelChar c := by
  unfold isLabelChar
  rw [h]
  rfl

theorem ColumnClause.BareName.cleanName (name : BareName) :
    Draft.cleanName name.chars = name.text := by
  unfold Draft.cleanName
  rw [name.clean]
  rfl

theorem ColumnClause.BareName.ne_of_isWord {c : Char} (hc : isWord c = false) (name : BareName) :
    ∀ d ∈ name.chars, d ≠ c := by
  rintro d hd rfl
  rw [name.word d hd] at hc
  cases hc

theorem all_isInner_listed (names : List BareName) : (listed names).all isInner := by
  refine Core.all_intercalate (by decide) fun part hp => ?_
  obtain ⟨name, _, rfl⟩ := List.mem_map.1 hp
  refine List.all_eq_true.2 fun c hc => ?_
  simp [isInner, name.ne_of_isWord (c := '(') (by decide) c hc,
    name.ne_of_isWord (c := ')') (by decide) c hc]

theorem cleanList_listed {names : List BareName} (h : names ≠ []) :
    Identifier.cleanList (listed names) = names.map BareName.chars :=
  Core.cleanList_listed h
    (fun name c hc => by simpa using name.ne_of_isWord (c := ',') (by decide) c hc)
    (fun name => by
      rw [Text.trim_eq_self fun c hc => Text.isBlank_eq_false_of_isWord (name.word c hc)]
      exact name.ne_nil)
    BareName.clean

theorem cleanNames_listed {names : List BareName} (h : names ≠ []) :
    Core.cleanNames (listed names) = names.map BareName.text := by
  unfold Core.cleanNames
  rw [cleanList_listed h, List.map_map]
  rfl

theorem takes_dotted (names : Several BareName) (hs : Stops isWord rest)
    (hd : Identifier.dotted.FailsOn rest) :
    Identifier.qualifiedName.Takes (dotted names) rest [] := by
  refine Identifier.takes_qualifiedName (by simp [names.list_ne_nil]) (fun text ht => ?_) hs hd
  obtain ⟨name, _, rfl⟩ := List.mem_map.1 ht
  exact name.isName

theorem stops_dotted (names : Several BareName) (rest : List Char) :
    Stops isBlank (dotted names ++ rest) := by
  have htext : dotted names = names.first.chars ++ (names.more.map BareName.chars).flatMap
      (['.'] ++ ·) := Text.intercalate_cons _ _ _
  rw [htext, List.append_assoc]
  exact names.first.isName.stops _

theorem clean_dotted (names : Several BareName) :
    Identifier.clean (dotted names) = dotted names := by
  refine clean_of_isLabelChar fun c hc => ?_
  rcases Text.mem_intercalate hc with hc | ⟨part, hp, hc⟩
  · rw [List.mem_singleton.1 hc]
    rfl
  · obtain ⟨name, _, rfl⟩ := List.mem_map.1 hp
    rw [isLabelChar_of_isWord (name.word c hc)]
    rfl

end Bare

end SchemaText.Sql
