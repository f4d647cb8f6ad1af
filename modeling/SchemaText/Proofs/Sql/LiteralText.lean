import SchemaText.Proofs.Pattern.Anchored
import SchemaText.Proofs.Pattern.Silent
import SchemaText.Proofs.Text.Split
import SchemaText.Sql.Token
import SchemaText.Sql.Statement
import SchemaText.Text.Split
/-! Lists of literals: the patterns of SQL take up all of a list, and the values are found in it,
whatever characters they hold. -/

namespace SchemaText.Sql.Literal

open Pattern Statement
open Text (Stops stops_nil stops_cons)

/-- A literal: a value between quotes, with those inside it written twice. -/
def quoted (value : List Char) : List Char :=
  '\'' :: (Text.double '\'' value ++ ['\''])

def more (values : List (List Char)) : List Char :=
  (values.map quoted).flatMap (", ".toList ++ ·)

/-- Literals with a comma and a space between them. -/
def listed (values : List (List Char)) : List Char :=
  ", ".toList.intercalate (values.map quoted)

theorem listed_cons (value : List Char) (values : List (List Char)) :
    listed (value :: values) = quoted value ++ more values := by
  unfold listed more
  rw [List.map_cons, Text.intercalate_cons]

theorem more_cons (value : List Char) (values : List (List Char)) :
    more (value :: values) = [','] ++ [' '] ++ (quoted value ++ more values) := by
  unfold more
  rw [List.map_cons, List.flatMap_cons, List.append_assoc]
  rfl

theorem stops_more (values : List (List Char)) {rest : List Char} (h : Stops (· == '\'') rest) :
    Stops (· == '\'') (more values ++ rest) := by
  cases values with
  | nil => exact h
  | cons value values => exact stops_cons.2 (by decide)

section Taking

variable {rest : List Char}

theorem takes_content (value : List Char) (h : Stops (· == '\'') rest) :
    content.Takes (Text.double '\'' value) ('\'' :: rest) [] := by
  refine RoundsTake.repeated ?_
  induction value with
  | nil =>
    refine FailsOn.roundsTake (FailsOn.orElse (failsOn_one (stops_cons.2 (by decide))) ?_)
    exact FailsOn.one_append fun _ => failsOn_one h
  | cons c value ih =>
    by_cases hc : c = '\''
    · have hdouble : Text.double '\'' (c :: value) = ['\'', '\''] ++ Text.double '\'' value := by
        rw [Text.double_cons, if_pos hc]
      have hpair : (char '\'' ++ char '\'').Takes ['\'', '\'']
          (Text.double '\'' value ++ '\'' :: rest) [] :=
        (takes_char '\'' _).append (takes_char '\'' _)
      rw [hdouble]
      exact ((failsOn_one (stops_cons.2 (by decide))).orElse_takes hpair).roundsTake (by simp) ih
    · have hdouble : Text.double '\'' (c :: value) = [c] ++ Text.double '\'' value := by
        rw [Text.double_cons, if_neg hc]
      have hone : (one (· ≠ '\'')).Takes [c] (Text.double '\'' value ++ '\'' :: rest) [] :=
        takes_of_leads fun _ hs => leads_one hs (by simpa using hc)
      rw [hdouble]
      exact (hone.orElse _).roundsTake (by simp) ih

def valueRound : Pattern :=
  one (fun c => c ≠ '\'' && c ≠ ')') <|> char '\'' ++ content ++ char '\''

theorem takes_valueRound (value : List Char) (h : Stops (· == '\'') rest) :
    valueRound.Takes (quoted value) rest [] := by
  have hone : (one (fun c => c ≠ '\'' && c ≠ ')')).FailsOn (quoted value ++ rest) :=
    failsOn_one (stops_cons.2 (by decide))
  refine hone.orElse_takes ?_
  exact ((takes_char '\'' _).append (takes_content value h)).append (takes_char '\'' rest)

theorem takes_separator {c : Char} (h : c ∈ [',', ' ']) (rest : List Char) :
    valueRound.Takes [c] rest [] := by
  refine Takes.orElse (takes_of_leads fun _ hs => leads_one hs ?_) _
  simp only [List.mem_cons, List.not_mem_nil, or_false] at h
  rcases h with rfl | rfl <;> decide

theorem roundsTake_more (values : List (List Char)) (rest : List Char) :
    valueRound.RoundsTake (more values) (')' :: rest) := by
  induction values with
  | nil =>
    refine FailsOn.roundsTake (FailsOn.orElse (failsOn_one (stops_cons.2 (by decide))) ?_)
    exact ((failsOn_char (by decide) rest).append _).append _
  | cons value values ih =>
    have hstops := stops_more values (stops_cons.2 (by decide) : Stops (· == '\'') (')' :: rest))
    have hvalue := (takes_valueRound value hstops).roundsTake (by simp [quoted]) ih
    have hspace := (takes_separator (c := ' ') (by decide) _).roundsTake (by simp) hvalue
    rw [more_cons, List.append_assoc]
    exact (takes_separator (c := ',') (by decide) _).roundsTake (by simp) hspace

theorem takes_enumValues (values : List (List Char)) (rest : List Char) :
    enumValues.Takes (listed values) (')' :: rest) [] := by
  cases values with
  | nil => exact (roundsTake_more [] rest).repeated
  | cons value values =>
    have hstops := stops_more values (stops_cons.2 (by decide) : Stops (· == '\'') (')' :: rest))
    have hvalue := (takes_valueRound value hstops).roundsTake (by simp [quoted])
      (roundsTake_more values rest)
    rw [listed_cons]
    exact hvalue.repeated

end Taking

section Finding

variable {rest : List Char} {s : Spot} {free : Nat}

theorem unescape_double (value : List Char) : unescape (Text.double '\'' value) = value := by
  induction value with
  | nil => rfl
  | cons c value ih =>
    rw [Text.double_cons]
    by_cases hc : c = '\''
    · rw [if_pos hc, hc]
      exact congrArg ('\'' :: ·) ih
    · rw [if_neg hc, List.singleton_append, unescape, ih]
      intro tail he
      exact absurd he hc

theorem takes_pattern (value : List Char) (h : Stops (· == '\'') rest) :
    pattern.Takes (quoted value) rest [("1", Text.double '\'' value)] := by
  have hcontent := (takes_content value h).group "1"
  have hall := ((takes_char '\'' _).append hcontent).append (takes_char '\'' rest)
  exact hall

theorem failsOn_pattern {c : Char} (h : c ≠ '\'') (rest : List Char) :
    pattern.FailsOn (c :: rest) :=
  ((failsOn_char h rest).append _).append _

def contents (free : Nat) (s : Spot) : List (List Char) :=
  (pattern.findFrom free s.onward).map fun m => m.text "1"

theorem contents_cons (value : List Char) (h : Stops (· == '\'') rest)
    (hs : s.rest = quoted value ++ rest) (hc : s.captures = []) (hf : free ≤ s.offset) :
    contents free s = Text.double '\'' value ::
      contents (s.offset + (quoted value).length) (s.past (quoted value) rest) := by
  obtain ⟨t, ht, hstop, hx⟩ := (takes_pattern value h).matchAt hs
  have htext : (matchOf s t).text "1" = Text.double '\'' value := by
    have hspot : s.texts = [] := by simp [Spot.texts, hc]
    rw [text_matchOf, Spot.text?_eq_lookup, hx, hspot]
    rfl
  have hend : (matchOf s t).stop = s.offset + (quoted value).length := hstop
  unfold contents
  rw [findFrom_of_match hs (by simp [quoted]) ht hend hf, List.map_cons, htext, hend]

theorem contents_listed (value : List Char) (values : List (List Char))
    (hs : s.rest = quoted value ++ more values) (hc : s.captures = []) (hf : free ≤ s.offset) :
    contents free s = (value :: values).map (Text.double '\'') := by
  have hstops (values : List (List Char)) : Stops (· == '\'') (more values) := by
    have h := stops_more values (stops_nil (· == '\''))
    rwa [List.append_nil] at h
  induction values generalizing value s free with
  | nil =>
    have hend : pattern.FailsOn [] := ((failsOn_one (stops_nil _)).append _).append _
    rw [contents_cons value (hstops []) hs hc hf, contents, findFrom_end hend rfl]
    rfl
  | cons next values ih =>
    -- No literal starts at the comma or at the blank behind it.
    have hcomma : pattern.Silent ([','] ++ [' ']) (quoted next ++ more values) :=
      (silent_singleton (failsOn_pattern (by decide) _)).append
        (silent_singleton (failsOn_pattern (by decide) _))
    have hnext : contents (s.offset + (quoted value).length)
        ((s.past (quoted value) (more (next :: values))).past ([','] ++ [' '])
          (quoted next ++ more values)) = (next :: values).map (Text.double '\'') :=
      ih next rfl hc (Nat.le_add_right _ _)
    unfold contents at hnext
    rw [contents_cons value (hstops _) hs hc hf, contents,
      findFrom_of_silent hcomma (more_cons next values), hnext]
    rfl

theorem findAll_listed (values : List (List Char)) : findAll (listed values) = values := by
  have hall : findAll (listed values) = (contents 0 ⟨0, none, listed values, []⟩).map unescape := by
    unfold contents
    rw [List.map_map]
    rfl
  cases values with
  | nil => rfl
  | cons value values =>
    rw [hall, contents_listed value values (listed_cons value values) rfl (Nat.le_refl 0),
      List.map_map]
    refine (List.map_congr_left fun other _ => unescape_double other).trans (List.map_id' _)

end Finding

end SchemaText.Sql.Literal
