import SchemaText.Proofs.Sql.CommentFree
import SchemaText.Proofs.Sql.ConstraintRead
/-! The definition of an enumeration by itself, read as that enumeration: its values may hold
anything but what starts a comment or folds a line end. -/

namespace SchemaText.Sql

open Pattern Statement
open Sql.Core (enclosed text_eq)
open Text (Stops stops_nil isBlank isWord)

section Marks

def commentPairs : List (List Char) :=
  [['-', '-'], ['/', '*'], ['\r', '\n']]

/-- There are no comments in the text and none of its line ends is folded. -/
def Commentless (text : List Char) : Prop :=
  ∀ pair ∈ commentPairs, ¬ pair <:+: text

instance (text : List Char) : Decidable (Commentless text) :=
  inferInstanceAs (Decidable (∀ pair ∈ commentPairs, ¬ pair <:+: text))

def isNeutral (c : Char) : Bool :=
  !(['-', '/', '*', '\r', '\n'].contains c)

variable {xs ys text : List Char}

theorem isNeutral_eq_false {pair : List Char} (h : pair ∈ commentPairs) {c : Char} (hc : c ∈ pair) :
    isNeutral c = false := by
  have hall : commentPairs.all fun pair => pair.all fun c => !isNeutral c := by decide
  simpa using List.all_eq_true.1 (List.all_eq_true.1 hall pair h) c hc

theorem notMem_of_isNeutral {pair : List Char} (h : pair ∈ commentPairs) {c : Char}
    (hc : isNeutral c) : c ∉ pair := by
  intro hin
  rw [isNeutral_eq_false h hin] at hc
  cases hc

theorem commentless_of_all (h : text.all isNeutral) : Commentless text := by
  intro pair hp hin
  obtain ⟨c, rest, rfl⟩ : ∃ c rest, pair = c :: rest := by
    simp only [commentPairs, List.mem_cons, List.not_mem_nil, or_false] at hp
    rcases hp with rfl | rfl | rfl <;> exact ⟨_, _, rfl⟩
  have hc := List.all_eq_true.1 h c (hin.subset List.mem_cons_self)
  exact notMem_of_isNeutral hp hc List.mem_cons_self

theorem Commentless.append_cons {c : Char} (h : Commentless xs) (hc : isNeutral c)
    (k : Commentless ys) :
    Commentless (xs ++ c :: ys) := by
  intro pair hp hin
  rcases Text.infix_or_infix_of_append_cons (notMem_of_isNeutral hp hc) hin with hin | hin
  · exact h pair hp hin
  · exact k pair hp hin

theorem Commentless.cons {c : Char} (hc : isNeutral c) (k : Commentless ys) :
    Commentless (c :: ys) := by
  have hnil : Commentless [] := commentless_of_all rfl
  exact hnil.append_cons hc k

theorem Commentless.all_append (k : Commentless ys) (h : xs.all isNeutral) :
    Commentless (xs ++ ys) := by
  induction xs with
  | nil => exact k
  | cons c xs ih =>
    obtain ⟨hc, hxs⟩ := Bool.and_eq_true_iff.1 h
    exact (ih hxs).cons hc

theorem pair_of_double {a b c : Char} (ha : a ≠ c) (hb : b ≠ c)
    (h : [a, b] <:+: Text.double c text) : [a, b] <:+: text := by
  induction text with
  | nil => exact h
  | cons d text ih =>
    rw [Text.double_cons] at h
    split at h
    · -- Neither of the two is the first of the pair.
      rcases List.infix_cons_iff.1 h with h | h
      · exact absurd (List.cons_prefix_cons.1 h).1 ha
      · rcases List.infix_cons_iff.1 h with h | h
        · exact absurd (List.cons_prefix_cons.1 h).1 ha
        · exact List.infix_cons (ih h)
    · rcases List.infix_cons_iff.1 h with h | h
      · obtain ⟨rfl, hb'⟩ := List.cons_prefix_cons.1 h
        cases text with
        | nil => exact absurd (List.prefix_nil.1 hb') (List.cons_ne_nil _ _)
        | cons e text =>
          rw [Text.double_cons] at hb'
          split at hb'
          · exact absurd (List.cons_prefix_cons.1 hb').1 hb
          · obtain ⟨rfl, _⟩ := List.cons_prefix_cons.1 hb'
            exact ⟨[], text, rfl⟩
      · exact List.infix_cons (ih h)

theorem commentless_double (h : Commentless text) : Commentless (Text.double '\'' text) := by
  intro pair hp hin
  refine h pair hp ?_
  simp only [commentPairs, List.mem_cons, List.not_mem_nil, or_false] at hp
  rcases hp with rfl | rfl | rfl <;> exact pair_of_double (by decide) (by decide) hin

theorem commentless_quoted_append (h : Commentless xs) (k : Commentless ys) :
    Commentless (Literal.quoted xs ++ ys) := by
  have htext : Literal.quoted xs ++ ys = '\'' :: (Text.double '\'' xs ++ '\'' :: ys) := by
    simp [Literal.quoted]
  rw [htext]
  exact ((commentless_double h).append_cons (by decide) k).cons (by decide)

theorem commentless_more {values : List (List Char)} (h : ∀ value ∈ values, Commentless value) :
    Commentless (Literal.more values) := by
  induction values with
  | nil => exact commentless_of_all rfl
  | cons value values ih =>
    have hrest := ih fun other ho => h other (List.mem_cons_of_mem _ ho)
    rw [Literal.more_cons]
    exact (commentless_quoted_append (h value List.mem_cons_self) hrest).all_append (by decide)

theorem commentless_listed {values : List (List Char)} (h : ∀ value ∈ values, Commentless value) :
    Commentless (Literal.listed values) := by
  cases values with
  | nil => exact commentless_of_all rfl
  | cons value values =>
    rw [Literal.listed_cons]
    exact commentless_quoted_append (h value List.mem_cons_self)
      (commentless_more fun other ho => h other (List.mem_cons_of_mem _ ho))

theorem Commentless.strip (h : Commentless text) : Comment.strip text = text := by
  have hstrip : Comment.strip (text ++ []) = Comment.foldLineEnds text ++ [] :=
    Comment.strip_append (h ['-', '-'] (by decide)) (h ['/', '*'] (by decide)) (by simp)
      (stops_nil _)
  rwa [List.append_nil, List.append_nil,
    Comment.foldLineEnds_eq_self (h ['\r', '\n'] (by decide))] at hstrip

end Marks

section Reading

variable {name : List Char} {values : List (List Char)}

def enumerationText (name : List Char) (values : List (List Char)) : List Char :=
  "CREATE TYPE ".toList ++ name ++ " AS ENUM ".toList ++ enclosed (Literal.listed values) ++ [';']

theorem commentless_enumerationText (hname : name.all isNeutral)
    (hvalues : ∀ value ∈ values, Commentless value) :
    Commentless (enumerationText name values) := by
  have hclosed : Commentless (Literal.listed values ++ ')' :: [';']) :=
    (commentless_listed hvalues).append_cons (by decide) (commentless_of_all (by decide))
  have htext (a b c : List Char) : a ++ name ++ b ++ enclosed c ++ [';'] =
      a ++ (name ++ (b ++ '(' :: (c ++ ')' :: [';']))) := by
    simp [enclosed]
  unfold enumerationText
  rw [htext]
  exact (((hclosed.cons (by decide)).all_append (by decide)).all_append hname).all_append
    (by decide)

def IsTaken (name : List Char) : Prop :=
  ∀ rest, Stops isBlank (name ++ rest) ∧
    Identifier.qualifiedName.Takes name (' ' :: ("AS ENUM".toList ++ rest)) []

theorem exists_findAll_eq {text : List Char} {texts : List (String × List Char)}
    (h : (word "CREATE" ++ (blanks ++ createEnumTail)).Takes text [] texts)
    (hd : text.head? = some 'C') :
    ∃ m, createEnum.findAll text = [m] ∧ Core.textsOf m = texts := by
  have hs : (⟨0, none, text, []⟩ : Spot).rest = text ++ [] := (List.append_nil text).symm
  have hne : text ≠ [] := by
    rintro rfl
    cases hd
  obtain ⟨m, hm, _, hstop, hx⟩ :=
    Core.exists_match_of_takes agrees_createEnum h hd (by decide) rfl rfl hs
  have hend : createEnum.FailsOn [] :=
    agrees_createEnum.failsOn (failsOn_keyed_of_stops (by decide) (by decide) (stops_nil _))
  refine ⟨m, ?_, hx⟩
  have hfind := findFrom_of_match hs hne hm hstop (Nat.le_refl 0)
  have hrest : createEnum.findFrom m.stop ((⟨0, none, text, []⟩ : Spot).past text []).onward = [] :=
    findFrom_end hend rfl _
  rwa [hrest] at hfind

theorem enumerations_enumerationText (hname : name.all isNeutral) (ht : IsTaken name)
    (hvalues : ∀ value ∈ values, Commentless value) :
    (read (String.ofList (enumerationText name values))).schema.enumerations =
      [{ name := Draft.cleanName name, values := values.map String.ofList }] := by
  have htakes := Core.takes_createEnum_listed (fun rest => (ht rest).1) (fun rest => (ht rest).2)
    values []
  obtain ⟨m, hfind, hx⟩ := exists_findAll_eq htakes rfl
  have hnames : m.text "name" = name := text_eq hx "name"
  have hlist : m.text "values" = Literal.listed values := text_eq hx "values"
  have hread (text : List Char) : (read (String.ofList text)).schema.enumerations =
      (createEnum.findAll (Comment.strip (String.ofList text).toList)).map enumerationOf := rfl
  have hfind : createEnum.findAll (enumerationText name values) = [m] := hfind
  rw [hread, String.toList_ofList, (commentless_enumerationText hname hvalues).strip, hfind,
    List.map_singleton, enumerationOf, hnames, hlist, Literal.findAll_listed]

end Reading

end SchemaText.Sql
