import SchemaText.Proofs.Sql.Opening
import SchemaText.Proofs.Text.Split
/-! Names as SQL takes them, alone and in sequences with dots between them. -/

namespace SchemaText.Sql.Identifier

open Pattern
open Text (Stops stops_cons isWord)

def nameMarks : List (Char × Char) :=
  [('`', '`'), ('"', '"'), ('[', ']')]

/-- A name as a text has it. -/
inductive IsName : List Char → Prop where
  | enclosed {opening closing : Char} {content : List Char} (h : (opening, closing) ∈ nameMarks)
      (hne : content ≠ []) (hn : closing ∉ content) : IsName (opening :: (content ++ [closing]))
  | word {text : List Char} (hne : text ≠ []) (h : ∀ c ∈ text, isWord c) : IsName text

variable {opening closing : Char} {rest : List Char}

theorem failsOn_enclosed {c : Char} (h : c ≠ opening) (rest : List Char) :
    (enclosed opening closing).FailsOn (c :: rest) :=
  ((failsOn_char h rest).append _).append _

theorem failsOn_quoted_of {accepts : Char → Bool} {c : Char} (h : accepts c)
    (k : ['`', '"', '['].all fun mark => !accepts mark) (rest : List Char) :
    quoted.FailsOn (c :: rest) := by
  have hmark (mark : Char) (hm : mark ∈ ['`', '"', '[']) : c ≠ mark := by
    rintro rfl
    simpa [h] using List.all_eq_true.1 k c hm
  exact (failsOn_enclosed (hmark _ (by decide)) rest).orElse
    ((failsOn_enclosed (hmark _ (by decide)) rest).orElse
      (failsOn_enclosed (hmark _ (by decide)) rest))

theorem failsOn_quoted {c : Char} (h : isWord c) (rest : List Char) :
    quoted.FailsOn (c :: rest) :=
  failsOn_quoted_of h (by decide) rest

theorem takes_enclosed {content : List Char} (hne : content ≠ []) (hn : closing ∉ content)
    (rest : List Char) :
    (enclosed opening closing).Takes (opening :: (content ++ [closing])) rest [] := by
  have hin : ∀ c ∈ content, (fun c => decide (c ≠ closing)) c := by
    intro c hc
    simpa using ne_of_mem_of_not_mem hc hn
  have hmore : (oneOrMore (· ≠ closing)).Takes content ([closing] ++ rest) [] :=
    takes_oneOrMore hne hin (stops_cons.2 (by simp))
  exact ((takes_char opening _).append hmore).append (takes_char closing rest)

theorem IsName.takes {text : List Char} (h : IsName text) (hs : Stops isWord rest) :
    name.Takes text rest [] := by
  cases h with
  | enclosed hm hne hn =>
    next opening closing content =>
    have htakes : (Identifier.enclosed opening closing).Takes (opening :: (content ++ [closing]))
        rest [] :=
      takes_enclosed hne hn rest
    simp only [nameMarks, List.mem_cons, Prod.mk.injEq, List.not_mem_nil, or_false] at hm
    refine Takes.orElse ?_ _
    rcases hm with ⟨rfl, rfl⟩ | ⟨rfl, rfl⟩ | ⟨rfl, rfl⟩
    · exact htakes.orElse _
    · exact (failsOn_enclosed (by decide) _).orElse_takes (htakes.orElse _)
    · exact (failsOn_enclosed (by decide) _).orElse_takes
        ((failsOn_enclosed (by decide) _).orElse_takes htakes)
  | word hne hall =>
    obtain ⟨c, more, rfl⟩ := List.exists_cons_of_ne_nil hne
    have hquoted : quoted.FailsOn (c :: more ++ rest) :=
      failsOn_quoted (hall c List.mem_cons_self) _
    exact hquoted.orElse_takes (takes_oneOrMore hne hall hs)

open Pattern
open Text (Stops stops_cons isBlank isWord)

variable {rest : List Char}

theorem IsName.stops {text : List Char} (h : IsName text) (rest : List Char) :
    Stops isBlank (text ++ rest) := by
  cases h with
  | @enclosed opening closing content hm hne hn =>
    simp only [nameMarks, List.mem_cons, Prod.mk.injEq, List.not_mem_nil, or_false] at hm
    rcases hm with ⟨rfl, rfl⟩ | ⟨rfl, rfl⟩ | ⟨rfl, rfl⟩ <;> exact stops_cons.2 (by decide)
  | word hne hall =>
    obtain ⟨c, more, rfl⟩ := List.exists_cons_of_ne_nil hne
    exact stops_cons.2 (Text.isBlank_eq_false_of_isWord (hall c List.mem_cons_self))

def dotted : Pattern :=
  gap ++ char '.' ++ gap ++ name

theorem IsName.takes_dotted {text : List Char} (h : IsName text) (hs : Stops isWord rest) :
    dotted.Takes ('.' :: text) rest [] := by
  have hgap : gap.Takes [] (['.'] ++ (text ++ rest)) [] := takes_gap (stops_cons.2 rfl)
  have hnext : gap.Takes [] (text ++ rest) [] := takes_gap (h.stops rest)
  exact ((hgap.append (takes_char '.' _)).append_nil hnext).append (h.takes hs)

theorem stops_dots {names : List (List Char)} (hs : Stops isWord rest) :
    Stops isWord (names.flatMap (['.'] ++ ·) ++ rest) := by
  cases names with
  | nil => exact hs
  | cons text names => exact stops_cons.2 (by decide)

theorem roundsTake_dotted {names : List (List Char)} (h : ∀ text ∈ names, IsName text)
    (hs : Stops isWord rest) (hd : dotted.FailsOn rest) :
    dotted.RoundsTake (names.flatMap (['.'] ++ ·)) rest := by
  induction names with
  | nil => exact hd.roundsTake
  | cons text names ih =>
    have hdots : Stops isWord (names.flatMap (['.'] ++ ·) ++ rest) := stops_dots hs
    have htext := (h text List.mem_cons_self).takes_dotted hdots
    exact htext.roundsTake (List.cons_ne_nil _ _) (ih fun other ho => h other (.tail _ ho))

theorem takes_qualifiedName {names : List (List Char)} (hne : names ≠ [])
    (h : ∀ text ∈ names, IsName text) (hs : Stops isWord rest) (hd : dotted.FailsOn rest) :
    qualifiedName.Takes (['.'].intercalate names) rest [] := by
  obtain ⟨first, more, rfl⟩ := List.exists_cons_of_ne_nil hne
  have hmore := roundsTake_dotted (fun text ht => h text (.tail _ ht)) hs hd
  rw [Text.intercalate_cons]
  exact ((h first List.mem_cons_self).takes (stops_dots hs)).append hmore.repeated

theorem IsName.takes_unqualified {text : List Char} (h : IsName text) (hs : Stops isWord rest)
    (hd : dotted.FailsOn rest) : qualifiedName.Takes text rest [] := by
  have htakes :=
    takes_qualifiedName (List.cons_ne_nil text []) (List.forall_mem_singleton.2 h) hs hd
  rwa [Text.intercalate_cons, List.flatMap_nil, List.append_nil] at htakes

theorem IsName.takes_qualified {schema text : List Char} (h : IsName schema) (k : IsName text)
    (hs : Stops isWord rest) (hd : dotted.FailsOn rest) :
    qualifiedName.Takes (schema ++ '.' :: text) rest [] := by
  have htakes := takes_qualifiedName (List.cons_ne_nil schema [text])
    (List.forall_mem_cons.2 ⟨h, List.forall_mem_singleton.2 k⟩) hs hd
  rwa [Text.intercalate_cons_cons, Text.intercalate_cons, List.flatMap_nil, List.append_nil]
    at htakes

end SchemaText.Sql.Identifier
