import SchemaText.Command.Source
import SchemaText.Proofs.Pattern.Found
import SchemaText.Proofs.Pattern.Spelled
/-! What the text of a source is: with line ends of any kind written the same, and in SQL if its
path or its content tells so. -/

namespace SchemaText.Command

open Text (isBlank isWord Stops)

section LineEnds

/-- The second text is the first one with a line feed for every line end. -/
inductive Unified : List Char → List Char → Prop
  | nil : Unified [] []
  | pair {text unified : List Char} (h : Unified text unified) :
    Unified ('\r' :: '\n' :: text) ('\n' :: unified)
  | single {text unified : List Char} (hn : text.head? ≠ some '\n') (h : Unified text unified) :
    Unified ('\r' :: text) ('\n' :: unified)
  | other {c : Char} {text unified : List Char} (hc : c ≠ '\r') (h : Unified text unified) :
    Unified (c :: text) (c :: unified)

theorem unified_foldLineEnds (text : List Char) : Unified text (Text.foldLineEnds text) := by
  fun_induction Text.foldLineEnds text with
  | case1 => exact .nil
  | case2 rest ih => exact .pair ih
  | case3 rest hn ih =>
    refine .single (fun hhead => ?_) ih
    obtain ⟨more, rfl⟩ : ∃ more, rest = '\n' :: more := by
      cases rest with
      | nil => cases hhead
      | cons c more => exact ⟨more, by rw [Option.some.inj hhead]⟩
    exact hn more rfl
  | case4 c rest _ hc ih => exact .other hc ih

theorem Unified.unique {text first second : List Char} (h : Unified text first)
    (k : Unified text second) : first = second := by
  induction h generalizing second with
  | nil =>
    cases k
    rfl
  | pair h ih =>
    cases k with
    | pair k => rw [ih k]
    | single hn _ => exact absurd rfl hn
    | other hc _ => exact absurd rfl hc
  | single hn h ih =>
    cases k with
    | pair k => exact absurd rfl hn
    | single _ k => rw [ih k]
    | other hc _ => exact absurd rfl hc
  | other hc h ih =>
    cases k with
    | pair _ | single _ _ => exact absurd rfl hc
    | other _ k => rw [ih k]

theorem unified_iff {text unified : List Char} :
    Unified text unified ↔ Text.foldLineEnds text = unified :=
  ⟨(unified_foldLineEnds text).unique, fun h => h ▸ unified_foldLineEnds text⟩

end LineEnds

section Languages

def SpeaksOfTables (text : List Char) : Prop :=
  ∃ before create blanks table behind,
    text = before ++ (create ++ blanks ++ table ++ behind) ∧
    Pattern.spells "CREATE" create ∧ Pattern.spells "TABLE" table ∧
    blanks ≠ [] ∧ (∀ c ∈ blanks, isBlank c) ∧
    before.getLast?.any isWord = false ∧ Stops isWord behind

/-- The language of the text at a path: the one that is asked for, or the one of the suffix, or else
SQL if the text speaks of tables. -/
inductive IsIn (path : Path) (text : List Char) : Option Language → Language → Prop
  | asked (language : Language) : IsIn path text (some language) language
  | sqlPath (h : path.loweredSuffix ∈ [".sql", ".ddl"]) : IsIn path text none .sql
  | dslPath (h : path.loweredSuffix ∈ [".dbml", ".txt"]) : IsIn path text none .dsl
  | sqlText (h : path.loweredSuffix ∉ [".sql", ".ddl", ".dbml", ".txt"])
    (k : SpeaksOfTables text) : IsIn path text none .sql
  | dslText (h : path.loweredSuffix ∉ [".sql", ".ddl", ".dbml", ".txt"])
    (k : ¬ SpeaksOfTables text) : IsIn path text none .dsl

variable {path : Path} {text : List Char}

theorem isKeyword_create : Pattern.isKeyword "CREATE" := by decide

theorem isKeyword_table : Pattern.isKeyword "TABLE" := by decide

theorem speaksOfTables_of_search (h : (tablePattern.search text).isSome) : SpeaksOfTables text := by
  obtain ⟨m, hm⟩ := Option.isSome_iff_exists.1 h
  obtain ⟨s, hs, t, ⟨u, ⟨v, ⟨hstart, rfl⟩, ⟨x, ⟨w, hcreate, hblanks⟩, htable⟩⟩, hstop, rfl⟩, _⟩ :=
    Pattern.meets_of_search hm
  obtain ⟨before, hbefore, _⟩ := Pattern.Spot.spans_of_mem_runFrom hs
  obtain ⟨create, hcs, hcreate⟩ := Pattern.spells_of_meets hcreate
  obtain ⟨blanks, hbs, hne, hblank⟩ := Pattern.oneOrMore_meets hblanks
  obtain ⟨table, hts, htable⟩ := Pattern.spells_of_meets htable
  have hspan := (hcs.trans hbs).trans hts
  have hwhole : text = before ++ (create ++ blanks ++ table ++ t.rest) := by
    rw [← hspan.rest]
    exact hbefore.rest
  -- Both words are made of word characters, so that an edge leaves none on the other side.
  obtain ⟨c, more, rfl⟩ := List.exists_cons_of_ne_nil
    (Pattern.ne_nil_of_spells isKeyword_create hcreate)
  have hc := Pattern.isWord_of_spells isKeyword_create hcreate c List.mem_cons_self
  have hfirst : v.before.any isWord = false := by
    unfold Pattern.Spot.atWordEdge at hstart
    rw [hspan.rest] at hstart
    simpa [hc] using hstart
  have hlast : t.before.any isWord := by
    have hne := Pattern.ne_nil_of_spells isKeyword_table htable
    rw [hts.before, List.getLast?_eq_some_getLast hne]
    exact Pattern.isWord_of_spells isKeyword_table htable _ (List.getLast_mem hne)
  refine ⟨before, _, blanks, table, t.rest, by simpa using hwhole, hcreate, htable, hne, hblank, ?_,
    fun d hd => ?_⟩
  · rw [hbefore.before] at hfirst
    cases hl : before.getLast? with
    | none => rfl
    | some d => simpa [hl] using hfirst
  · unfold Pattern.Spot.atWordEdge at hstop
    rw [hlast, hd] at hstop
    simpa using hstop

theorem isSome_search_of_speaksOfTables (h : SpeaksOfTables text) :
    (tablePattern.search text).isSome := by
  obtain ⟨before, create, blanks, table, behind, rfl, hcreate, htable, hne, hblank, hfirst,
    hlast⟩ := h
  have hcreates := Pattern.isWord_of_spells isKeyword_create hcreate
  have htables := Pattern.isWord_of_spells isKeyword_table htable
  obtain ⟨c, create, rfl⟩ := List.exists_cons_of_ne_nil
    (Pattern.ne_nil_of_spells isKeyword_create hcreate)
  obtain ⟨t, table, rfl⟩ := List.exists_cons_of_ne_nil
    (Pattern.ne_nil_of_spells isKeyword_table htable)
  have hstops : Stops isBlank (t :: table ++ behind) :=
    Text.stops_cons.2 (Text.isBlank_eq_false_of_isWord (htables t List.mem_cons_self))
  have hphrase : (Pattern.phrase ["CREATE", "TABLE"]).Takes (c :: create ++ blanks ++ t :: table)
      behind [] :=
    ((Pattern.takes_spelled hcreate _).append (Pattern.takes_oneOrMore hne hblank hstops)).append
      (Pattern.takes_spelled htable behind)
  have hend : (c :: create ++ blanks ++ t :: table).getLast?.any isWord := by
    rw [List.getLast?_append, List.getLast?_eq_some_getLast (List.cons_ne_nil t table)]
    exact htables _ (List.getLast_mem _)
  let s : Pattern.Spot := ⟨0, none, before ++ (c :: create ++ blanks ++ t :: table ++ behind), []⟩
  let front := s.past before (c :: create ++ blanks ++ t :: table ++ behind)
  have hb : front.before.any isWord = false := by
    change (before.getLast?.or none).any isWord = false
    rwa [Option.or_none]
  obtain ⟨u, hlead, _⟩ := (hphrase.append_wordEdge hend hlast).leads_wordEdge_append
    (s := front) (hcreates c List.mem_cons_self) hb rfl
  have hin : front ∈ Pattern.Spot.all s.rest :=
    Pattern.Spot.mem_runFrom_of_spans (Pattern.Spot.spans_past rfl) (fun _ _ => rfl) rfl
  unfold Pattern.search
  rw [List.findSome?_isSome_iff]
  exact ⟨front, hin, Option.isSome_iff_exists.2 ⟨_, hlead _ _ rfl⟩⟩

theorem isIn_detect (path : Path) (text : List Char) :
    IsIn path text none (Language.detect path text) := by
  unfold Language.detect
  dsimp only
  split
  · next h => exact .sqlPath (List.mem_pair.2 h)
  split
  · next h => exact .dslPath (List.mem_pair.2 h)
  next hs hd =>
  have hother : path.loweredSuffix ∉ [".sql", ".ddl", ".dbml", ".txt"] := by
    rw [not_or] at hs hd
    simp [hs, hd]
  split
  · next h => exact .sqlText hother (speaksOfTables_of_search h)
  · next h => exact .dslText hother fun k => h (isSome_search_of_speaksOfTables k)

theorem IsIn.unique {asked : Option Language} {first second : Language}
    (h : IsIn path text asked first) (k : IsIn path text asked second) : first = second := by
  have happart (h : path.loweredSuffix ∈ [".sql", ".ddl"])
      (k : path.loweredSuffix ∈ [".dbml", ".txt"]) : False := by
    rcases List.mem_pair.1 h with hs | hs <;> rw [hs] at k <;> simp at k
  have hall {suffix : String} (h : suffix ∈ [".sql", ".ddl"] ∨ suffix ∈ [".dbml", ".txt"]) :
      suffix ∈ [".sql", ".ddl", ".dbml", ".txt"] :=
    List.mem_append (s := [".sql", ".ddl"]).2 h
  cases h with
  | asked =>
    cases k
    rfl
  | sqlPath h =>
    cases k with
    | sqlPath | sqlText _ _ => rfl
    | dslPath k => exact (happart h k).elim
    | dslText k _ => exact absurd (hall (.inl h)) k
  | dslPath h =>
    cases k with
    | dslPath | dslText _ _ => rfl
    | sqlPath k => exact (happart k h).elim
    | sqlText k _ => exact absurd (hall (.inr h)) k
  | sqlText h hs =>
    cases k with
    | sqlPath | sqlText _ _ => rfl
    | dslPath k => exact absurd (hall (.inr k)) h
    | dslText _ hn => exact absurd hs hn
  | dslText h hn =>
    cases k with
    | dslPath | dslText _ _ => rfl
    | sqlPath k => exact absurd (hall (.inl k)) h
    | sqlText _ hs => exact absurd hs hn

theorem isIn_iff {asked : Option Language} {language : Language} :
    IsIn path text asked language ↔ asked.getD (Language.detect path text) = language := by
  have hown : IsIn path text asked (asked.getD (Language.detect path text)) := by
    cases asked with
    | some language =>
      rw [Option.getD_some]
      exact .asked language
    | none =>
      rw [Option.getD_none]
      exact isIn_detect path text
  exact ⟨hown.unique, fun h => h ▸ hown⟩

end Languages

end SchemaText.Command
