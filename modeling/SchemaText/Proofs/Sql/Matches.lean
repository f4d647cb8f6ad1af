import SchemaText.Proofs.Sql.Quiet
import SchemaText.Proofs.Sql.Recognised
import SchemaText.Sql.Script
/-! The matches of the statement patterns in a script: one for each definition of their kind. -/

namespace SchemaText.Sql.Core

open Pattern Statement
open Text (Stops stops_cons isWord)

/-- Definitions with the offsets at which they stand, one a line. -/
def placed : Nat → List Definition → List (Nat × Definition)
  | _, [] => []
  | offset, definition :: script =>
    (offset, definition) :: placed (offset + definition.chars.length + 1) script

def textsOf (m : Match) : List (String × List Char) :=
  m.captures.map fun c => (c.name, c.text)

structure Covers (offset : Nat) (definition : Definition) (texts : List (String × List Char))
    (m : Match) : Prop where
  start : m.start = offset
  stop : m.stop = offset + definition.chars.length
  texts : textsOf m = texts

inductive Finds (texts? : Definition → Option (List (String × List Char))) :
    List (Nat × Definition) → List Match → Prop where
  | nil : Finds texts? [] []
  | skip {offset : Nat} {definition : Definition} {script : List (Nat × Definition)}
    {found : List Match} (h : texts? definition = none) (k : Finds texts? script found) :
    Finds texts? ((offset, definition) :: script) found
  | found {offset : Nat} {definition : Definition} {script : List (Nat × Definition)}
    {found : List Match} {m : Match} {texts : List (String × List Char)}
    (h : texts? definition = some texts) (hm : Covers offset definition texts m)
    (k : Finds texts? script found) : Finds texts? ((offset, definition) :: script) (m :: found)

structure Recognises (p : Pattern) (texts? : Definition → Option (List (String × List Char)))
    (definition : Definition) : Prop where
  silent : texts? definition = none → ∀ rest, p.Silent definition.chars rest
  covers : ∀ texts, texts? definition = some texts → ∀ (s : Spot) (rest : List Char),
    s.captures = [] → s.before.any isWord = false → s.rest = definition.chars ++ rest →
      ∃ m, p.matchAt s = some m ∧ Covers s.offset definition texts m

section Search

variable {p : Pattern} {texts? : Definition → Option (List (String × List Char))}

theorem Definition.chars_ne_nil (definition : Definition) : definition.chars ≠ [] := by
  simp [Definition.chars]

theorem exists_finds_cons {definition : Definition} {script : List (Nat × Definition)}
    (h : Recognises p texts? definition) {s : Spot} {rest : List Char} {free : Nat}
    (hs : s.rest = definition.chars ++ rest) (hc : s.captures = [])
    (hb : s.before.any isWord = false) (hf : free ≤ s.offset)
    (k : ∀ free, free ≤ s.offset + definition.chars.length →
      ∃ found, p.findFrom free (s.past definition.chars rest).onward = found ∧
        Finds texts? script found) :
    ∃ found, p.findFrom free s.onward = found ∧
      Finds texts? ((s.offset, definition) :: script) found := by
  cases ht : texts? definition with
  | none =>
    obtain ⟨found, hk, hfinds⟩ := k free (by omega)
    rw [findFrom_of_silent (h.silent ht rest) hs]
    exact ⟨found, hk, .skip ht hfinds⟩
  | some texts =>
    obtain ⟨m, hm, hcovers⟩ := h.covers texts ht s rest hc hb hs
    obtain ⟨found, hk, hfinds⟩ := k m.stop (Nat.le_of_eq hcovers.stop)
    rw [findFrom_of_match hs definition.chars_ne_nil hm hcovers.stop hf, hk]
    exact ⟨_, rfl, .found ht hcovers hfinds⟩

def linesText (script : List Definition) : List Char :=
  (script.map Definition.chars).flatMap (['\n'] ++ ·)

theorem exists_finds_from {definition : Definition} {script : List Definition}
    (h : ∀ d ∈ definition :: script, Recognises p texts? d) (he : p.FailsOn [])
    (hl : ∀ rest, p.FailsOn ('\n' :: rest)) (free : Nat) {s : Spot}
    (hs : s.rest = definition.chars ++ linesText script) (hc : s.captures = [])
    (hb : s.before.any isWord = false) (hf : free ≤ s.offset) :
    ∃ found, p.findFrom free s.onward = found ∧
      Finds texts? (placed s.offset (definition :: script)) found := by
  -- The search stands at a definition, behind which a line end leads to the next one.
  induction script generalizing definition s free with
  | nil =>
    refine exists_finds_cons (h definition (by simp)) hs hc hb hf fun free _ => ?_
    exact ⟨[], findFrom_end he rfl free, .nil⟩
  | cons next script ih =>
    refine exists_finds_cons (h definition (by simp)) hs hc hb hf fun free hfree => ?_
    have hline : linesText (next :: script) = ['\n'] ++ (next.chars ++ linesText script) := by
      simp [linesText]
    rw [hline, findFrom_of_silent (silent_singleton (hl _)) rfl, Spot.past_past]
    have hbefore : (definition.chars ++ ['\n']).getLast?.or s.before = some '\n' := by simp
    have hnext := ih (fun d hd => h d (List.mem_cons_of_mem _ hd)) free
      (s := s.past (definition.chars ++ ['\n']) (next.chars ++ linesText script))
      rfl hc (by simp only [Spot.past, hbefore]; decide)
      (by simp only [Spot.past, List.length_append, List.length_singleton]; omega)
    simpa [Spot.past, Nat.add_assoc] using hnext

theorem exists_finds {script : List Definition}
    (h : ∀ definition ∈ script, Recognises p texts? definition) (he : p.FailsOn [])
    (hl : ∀ rest, p.FailsOn ('\n' :: rest)) :
    ∃ found, p.findAll (scriptText script).toList = found ∧
      Finds texts? (placed 0 script) found := by
  unfold scriptText findAll
  rw [String.toList_ofList]
  cases script with
  | nil => exact ⟨[], findFrom_end he (s := ⟨0, none, [], []⟩) rfl 0, .nil⟩
  | cons definition script =>
    rw [List.map_cons, Text.intercalate_cons]
    exact exists_finds_from h he hl 0 (s := ⟨0, none, definition.chars ++ linesText script, []⟩)
      rfl rfl
      rfl (Nat.le_refl 0)

end Search

section Statements

theorem exists_match_of_takes {letters : String} {p q : Pattern} {text rest : List Char}
    {texts : List (String × List Char)} {s : Spot} {c : Char} (hp : p.Agrees (keyed letters q))
    (h : (word letters ++ (blanks ++ q)).Takes text rest texts) (hd : text.head? = some c)
    (hw : isWord c) (hc : s.captures = []) (hb : s.before.any isWord = false)
    (hs : s.rest = text ++ rest) :
    ∃ m, p.matchAt s = some m ∧ m.start = s.offset ∧ m.stop = s.offset + text.length ∧
      textsOf m = texts := by
  obtain ⟨t, ht, hst, hr, hx⟩ := h s hs
  -- A statement starts a line, so its first letter has an edge before it.
  have hedge : s.atWordEdge := by
    have hh : s.rest.head? = some c := by
      rw [hs, List.head?_append, hd]
      rfl
    simp [Spot.atWordEdge, hb, hh, hw]
  have hm : (keyed letters q).matchAt s = some (matchOf s t) :=
    ((leads_wordEdge hedge).append ht).matchAt
  refine ⟨matchOf s t, ?_, rfl, hst.offset, ?_⟩
  · rw [hp.matchAt, hm]
  · have htexts : textsOf (matchOf s t) = t.texts := rfl
    rw [htexts, hx]
    simp [Spot.texts, hc]

theorem covers_of_takes {letters : String} {p q : Pattern} {definition : Definition}
    {texts : List (String × List Char)} {s : Spot} {rest : List Char} {c : Char}
    (hp : p.Agrees (keyed letters q))
    (h : (word letters ++ (blanks ++ q)).Takes definition.chars rest texts)
    (hd : definition.chars.head? = some c) (hw : isWord c) (hc : s.captures = [])
    (hb : s.before.any isWord = false) (hs : s.rest = definition.chars ++ rest) :
    ∃ m, p.matchAt s = some m ∧ Covers s.offset definition texts m := by
  obtain ⟨m, hm, hstart, hstop, hx⟩ := exists_match_of_takes hp h hd hw hc hb hs
  exact ⟨m, hm, hstart, hstop, hx⟩

def tableTexts : Definition → Option (List (String × List Char))
  | .table id clauses =>
    some [("options", []), ("body", bodyText clauses), ("table", id.chars)]
  | _ => none

def indexTexts : Definition → Option (List (String × List Char))
  | .index unique name owner columns =>
    some ([("columns", namesText columns), ("table", owner.chars), ("name", name.chars)] ++
      if unique then [("unique", uniqueText true)] else [])
  | _ => none

def keyTexts : Definition → Option (List (String × List Char))
  | .foreignKey owner pairs target =>
    some [("target_columns", namesText (pairs.map Prod.snd)), ("target", target.chars),
      ("columns", namesText (pairs.map Prod.fst)), ("table", owner.chars)]
  | _ => none

def enumTexts : Definition → Option (List (String × List Char))
  | .enumeration id values => some [("values", valuesText values), ("name", id.chars)]
  | _ => none

theorem recognises_createTable (definition : Definition) :
    Recognises createTable tableTexts definition where
  silent h := by
    cases definition with
    | table id clauses => cases h
    | _ => exact silent_createTable rfl
  covers texts h s rest hc hb hs := by
    cases definition with
    | table id clauses =>
      obtain rfl := Option.some.inj h
      exact covers_of_takes (c := 'C') agrees_createTable (takes_createTable id clauses rest)
        rfl (by decide) hc hb hs
    | _ => cases h

theorem recognises_addForeignKey (definition : Definition) :
    Recognises addForeignKey keyTexts definition where
  silent h := by
    refine silent_addForeignKey_of_ne fun owner pairs target he => ?_
    subst he
    cases h
  covers texts h s rest hc hb hs := by
    cases definition with
    | foreignKey owner pairs target =>
      obtain rfl := Option.some.inj h
      exact covers_of_takes (c := 'A') agrees_addForeignKey
        (takes_addForeignKey owner pairs target rest) rfl (by decide) hc hb hs
    | _ => cases h

theorem recognises_createEnum (definition : Definition) :
    Recognises createEnum enumTexts definition where
  silent h := by
    cases definition with
    | enumeration id values => cases h
    | _ => exact silent_createEnum rfl
  covers texts h s rest hc hb hs := by
    cases definition with
    | enumeration id values =>
      obtain rfl := Option.some.inj h
      exact covers_of_takes (c := 'C') agrees_createEnum (takes_createEnum id values rest)
        rfl (by decide) hc hb hs
    | _ => cases h

def Definition.indexNamed : Definition → Bool
  | .index _ name _ _ => !spells "CONCURRENTLY" name.chars
  | _ => true

theorem recognises_createIndex {definition : Definition} (h : definition.indexNamed) :
    Recognises createIndex indexTexts definition where
  silent k := by
    refine silent_createIndex fun unique name owner columns he => ?_
    subst he
    cases k
  covers texts k s rest hc hb hs := by
    cases definition with
    | index unique name owner columns =>
      obtain rfl := Option.some.inj k
      have hn : spells "CONCURRENTLY" name.chars = false := by simpa [Definition.indexNamed] using h
      refine covers_of_takes (c := 'C') agrees_createIndex
        (takes_createIndex unique hn owner columns rest) ?_ (by decide) hc hb hs
      cases unique <;> rfl
    | _ => cases k

end Statements

end SchemaText.Sql.Core
