import SchemaText.Proofs.Sql.OpaqueLiteral
import SchemaText.Proofs.Sql.OptionValue
/-! Column clauses with attributes in any order: what is read from them does not depend on the
order. -/

namespace SchemaText.Sql.ColumnClause

open Pattern
open Text (Stops stops_nil stops_cons isBlank isWord)
open Sql.ColumnClause.Frame (found)
open Sql.Core (textsOf text_eq Flag enclosed)

inductive Attribute where
  | flag (flag : Flag)
  | autoIncrement
  | default (value : Numeral)
  | comment (note : Note)
  | reference (table column : BareName)
  deriving DecidableEq

namespace Attribute

def tokens : Attribute → List Token
  | flag f => f.keywords.map .keyword
  | autoIncrement => [.keyword "AUTO_INCREMENT"]
  | default value => [.keyword "DEFAULT", .value value.chars]
  | comment note => [.keyword "COMMENT", .value ('\'' :: (note.chars ++ ['\'']))]
  | reference table column => [.keyword "REFERENCES", .target table column]

/-- The texts of the attribute that its writer chooses freely. -/
def texts : Attribute → List (List Char)
  | comment note => [note.chars]
  | reference table column => [table.chars, column.chars]
  | _ => []

def default? : Attribute → Option Numeral
  | default value => some value
  | _ => none

def note? : Attribute → Option Note
  | comment note => some note
  | _ => none

def target? : Attribute → Option (BareName × BareName)
  | reference table column => some (table, column)
  | _ => none

def openings : List String :=
  ["UNIQUE", "NOT", "PRIMARY", "AUTO", "GENERATED", "DEFAULT", "COMMENT", "REFERENCES"]

/-- The word with which the rule for the attribute starts. -/
def opening : Attribute → String
  | flag .notNull => "NOT"
  | flag .unique => "UNIQUE"
  | flag .primaryKey => "PRIMARY"
  | autoIncrement => "AUTO"
  | default _ => "DEFAULT"
  | comment _ => "COMMENT"
  | reference _ _ => "REFERENCES"

/-- The free texts hold none of the words with which the rules start. -/
def Quiet (a : Attribute) : Prop :=
  ∀ text ∈ a.texts, ∀ letters ∈ openings, Pattern.holds letters text = false

instance (a : Attribute) : Decidable a.Quiet :=
  inferInstanceAs (Decidable (∀ _ ∈ _, _))

end Attribute

section Rules

def flagRule : Flag → Pattern
  | .notNull => notNull
  | .unique => unique
  | .primaryKey => primaryKey

def counterRule : Pattern :=
  word "AUTO" ++ Pattern.optional (char '_') ++ word "INCREMENT"

theorem ledBy_autoIncrement : LedBy ["AUTO", "GENERATED"] autoIncrement :=
  (((ledBy_word (by decide)).append _).append _).orElse
    (((((ledBy_word (by decide)).append _).append _).append _).append _)

/-- The spellings of the word for a column that numbers its rows. -/
def counterWords : List String :=
  ["AUTOINCREMENT", "AUTO_INCREMENT"]

theorem takes_counterRule {letters : String} {key : List Char} (hl : letters ∈ counterWords)
    (h : spells letters key) (rest : List Char) : counterRule.Takes key rest [] := by
  have hcases : letters = "AUTOINCREMENT" ∨ letters = "AUTO_INCREMENT" := by
    simpa [counterWords] using hl
  rcases hcases with rfl | rfl
  · obtain ⟨first, last, rfl, hfirst, hlast⟩ :=
      (spells_append_iff "AUTO" "INCREMENT" (by decide)).1 h
    have hmark : (char '_').FailsOn (last ++ rest) := by
      cases last with
      | nil => cases hlast
      | cons c last =>
        refine failsOn_char (fun he => ?_) (last ++ rest)
        have hc := (Bool.and_eq_true_iff.1 hlast).1
        rw [he] at hc
        exact absurd hc (by decide)
    exact ((takes_spelled hfirst _).append_nil hmark.optional).append (takes_spelled hlast rest)
  · obtain ⟨first, more, rfl, hfirst, hmore⟩ :=
      (spells_append_iff "AUTO" "_INCREMENT" (by decide)).1 h
    obtain ⟨mark, last, rfl, hmark, hlast⟩ :=
      (spells_append_iff "_" "INCREMENT" (by decide)).1 hmore
    obtain rfl := spells_underscore_iff.1 hmark
    rw [← List.append_assoc]
    exact ((takes_spelled hfirst _).append (takes_char '_' _).optional).append
      (takes_spelled hlast rest)

end Rules

section Tokens

variable {a : Attribute} {token : Token} {letters : String}

theorem isKeyword_of_mem_openings (h : letters ∈ Attribute.openings) : isKeyword letters := by
  have hall : Attribute.openings.all isKeyword := by decide
  exact List.all_eq_true.1 hall letters h

theorem Attribute.Quiet.holds_eq_false (hq : a.Quiet) (hl : letters ∈ openings)
    (hne : a.opening ≠ letters) (ht : token ∈ a.tokens) : token.holds letters = false := by
  have hkeyword (first : String) {own : String} (he : a.opening = first)
      (h : openings.all fun letters => first == letters || !Pattern.holds letters own.toList) :
      Pattern.holds letters own.toList = false := by
    simpa [he ▸ hne] using List.all_eq_true.1 h letters hl
  have hk := isKeyword_of_mem_openings hl
  cases a with
  | flag f =>
    obtain ⟨own, ho, rfl⟩ := List.mem_map.1 ht
    have hall : f.keywords.all fun own => openings.all fun letters =>
        (flag f).opening == letters || !Pattern.holds letters own.toList := by
      cases f <;> decide
    exact hkeyword _ rfl (List.all_eq_true.1 hall own ho)
  | autoIncrement =>
    obtain rfl := List.mem_singleton.1 ht
    exact hkeyword "AUTO" rfl (by decide)
  | default value =>
    rcases List.mem_pair.1 ht with rfl | rfl
    · exact hkeyword "DEFAULT" rfl (by decide)
    · have hletters : openings.all fun letters => letters.toList.all fun c =>
          !(Text.foldLetter c).isDigit && !Text.sameLetter c '-' := by
        decide
      exact value.holds_eq_false hk (List.all_eq_true.1 hletters letters hl)
  | comment note =>
    rcases List.mem_pair.1 ht with rfl | rfl
    · exact hkeyword "COMMENT" rfl (by decide)
    · exact (note.holds_eq hk).trans (hq _ List.mem_cons_self letters hl)
  | reference table column =>
    rcases List.mem_pair.1 ht with rfl | rfl
    · exact hkeyword "REFERENCES" rfl (by decide)
    · exact Bool.or_eq_false_iff.2
        ⟨hq _ (by simp [texts]) letters hl, hq _ (by simp [texts]) letters hl⟩

end Tokens

section Searches

variable {p : Pattern} {os : List String} {as : List Attribute} {tail : List Char}

theorem mute_of_opening_ne (h : LedBy os p) (hos : os ⊆ Attribute.openings)
    (hq : ∀ a ∈ as, a.Quiet) (hne : ∀ a ∈ as, a.opening ∉ os) :
    ∀ token ∈ as.flatMap Attribute.tokens, Mute p token := by
  intro token ht
  obtain ⟨a, ha, ht⟩ := List.mem_flatMap.1 ht
  refine mute_of_holds h fun letters hl => (hq a ha).holds_eq_false (hos hl) ?_ ht
  rintro rfl
  exact hne a ha hl

theorem isSome_search_eq_decide {own : Attribute} (h : LedBy os p) (hos : os ⊆ Attribute.openings)
    (honly : ∀ a : Attribute, a.opening ∈ os → a = own)
    (hfound : ∀ xs ys, Written (xs ++ (own.tokens ++ ys)) tail → (p.search tail).isSome)
    (hq : ∀ a ∈ as, a.Quiet) (hw : Written (as.flatMap Attribute.tokens) tail) :
    (p.search tail).isSome = decide (own ∈ as) := by
  by_cases hm : own ∈ as
  · obtain ⟨before, after, rfl⟩ := List.append_of_mem hm
    rw [List.flatMap_append, List.flatMap_cons] at hw
    rw [hfound _ _ hw, decide_eq_true hm]
  · have hnone := found_eq_none hw h <| mute_of_opening_ne h hos hq fun a ha ho =>
      hm (honly a ho ▸ ha)
    rw [isSome_search, hnone, decide_eq_false hm]
    rfl

theorem eq_flag_of_opening {a : Attribute} {f : Flag} (h : a.opening = (Attribute.flag f).opening) :
    a = .flag f := by
  cases f <;> cases a with
  | flag g => cases g <;> first | rfl | simp [Attribute.opening] at h
  | _ => simp [Attribute.opening] at h

theorem ledBy_flagRule (f : Flag) : LedBy [(Attribute.flag f).opening] (flagRule f) := by
  cases f with
  | notNull | primaryKey => exact ((ledBy_word (by decide)).append _).append _
  | unique => exact (ledBy_word (by decide)).append _

theorem isSome_flagRule (f : Flag) (hq : ∀ a ∈ as, a.Quiet)
    (hw : Written (as.flatMap Attribute.tokens) tail) :
    ((flagRule f).search tail).isSome = decide (.flag f ∈ as) := by
  refine isSome_search_eq_decide (ledBy_flagRule f) (by cases f <;> decide)
    (fun a ha => eq_flag_of_opening (List.mem_singleton.1 ha)) (fun xs ys h => ?_) hq hw
  cases f with
  | notNull | primaryKey => exact isSome_search_phrase (by decide) h
  | unique =>
    refine isSome_search_of_takes h fun key text hkey hb => ⟨key, text, rfl, ?_⟩
    have hlast : key.getLast?.any isWord := by
      have hne := ne_nil_of_spells (by decide) hkey
      rw [List.getLast?_eq_some_getLast hne]
      exact isWord_of_spells (by decide) hkey _ (List.getLast_mem hne)
    exact (takes_spelled hkey text).append_wordEdge hlast hb.apart.stops_isWord

theorem isSome_autoIncrement (hq : ∀ a ∈ as, a.Quiet)
    (hw : Written (as.flatMap Attribute.tokens) tail) :
    (autoIncrement.search tail).isSome = decide (.autoIncrement ∈ as) := by
  refine isSome_search_eq_decide ledBy_autoIncrement (by decide) (fun a ha => ?_)
    (fun xs ys h => ?_) hq hw
  · cases a with
    | autoIncrement => rfl
    | flag f => cases f <;> simp [Attribute.opening] at ha
    | _ => simp [Attribute.opening] at ha
  · refine isSome_search_of_takes h fun key text hkey hb => ⟨key, text, rfl, ?_⟩
    exact (takes_counterRule (by decide) hkey text).orElse _

theorem found_value {letters : String} {q : Pattern} {β : Type} (value : Attribute → Option β)
    (token : β → Token) (ha : p.Agrees (keyed letters q)) (hl : letters ∈ Attribute.openings)
    (hsome : ∀ a b, value a = some b → a.tokens = [.keyword letters, token b])
    (hown : ∀ a, a.opening = letters → (value a).isSome) (hq : ∀ a ∈ as, a.Quiet)
    (hw : Written (as.flatMap Attribute.tokens) tail) :
    match as.findSome? value with
    | none => found p tail = none
    | some b => ∃ chars rest, (token b).Writes chars ∧ Apart rest ∧
        ∀ taken after texts, chars ++ rest = taken ++ after → Stops isBlank (taken ++ after) →
          q.Takes taken after texts → found p tail = some texts := by
  have hk := isKeyword_of_mem_openings hl
  have hled : LedBy [letters] p := ha.ledBy (ledBy_keyed hk q)
  have hmute {xs : List Attribute} (hx : ∀ a ∈ xs, a.Quiet) (hn : ∀ a ∈ xs, value a = none) :=
    mute_of_opening_ne hled (by simpa using hl) hx fun a hm ho => by
      have hsome := hown a (List.mem_singleton.1 ho)
      rw [hn a hm] at hsome
      cases hsome
  cases hfind : as.findSome? value with
  | none => exact found_eq_none hw hled (hmute hq (List.findSome?_eq_none_iff.1 hfind))
  | some b =>
    obtain ⟨before, a, after, rfl, hb, hbefore⟩ := List.findSome?_eq_some_iff.1 hfind
    rw [List.flatMap_append, List.flatMap_cons, hsome a b hb] at hw
    exact found_keyed hw hk ha
      (hmute (fun a hm => hq a (List.mem_append_left _ hm)) hbefore)

theorem defaultOf_eq_findSome? (hq : ∀ a ∈ as, a.Quiet)
    (hw : Written (as.flatMap Attribute.tokens) tail) :
    defaultOf tail = (as.findSome? Attribute.default?).map Numeral.chars := by
  have hfound := found_value Attribute.default? (fun n => .value n.chars) agrees_default (by decide)
    (fun a n h => by cases a <;> cases h; rfl)
    (fun a h => by
      rcases a with (_ | _ | _) | _ | _ | _ | _ <;> first | rfl | simp [Attribute.opening] at h)
    hq hw
  rw [defaultOf_eq]
  cases hfind : as.findSome? Attribute.default? with
  | none =>
    rw [hfind] at hfound
    rw [hfound]
    rfl
  | some n =>
    rw [hfind] at hfound
    obtain ⟨_, rest, ⟨⟩, hr, htaken⟩ := hfound
    rw [htaken _ _ _ rfl (n.stops_isBlank rest) (n.takes hr)]
    exact congrArg some n.unquote

theorem noteOf_eq_findSome? (hq : ∀ a ∈ as, a.Quiet)
    (hw : Written (as.flatMap Attribute.tokens) tail) :
    (comment.search tail).map (·.text "note") = (as.findSome? Attribute.note?).map Note.chars := by
  have hfound := found_value Attribute.note? (fun note => .value ('\'' :: (note.chars ++ ['\''])))
    agrees_comment (by decide) (fun a n h => by cases a <;> cases h; rfl)
    (fun a h => by
      rcases a with (_ | _ | _) | _ | _ | _ | _ <;> first | rfl | simp [Attribute.opening] at h)
    hq hw
  rw [noteOf_eq]
  cases hfind : as.findSome? Attribute.note? with
  | none =>
    rw [hfind] at hfound
    rw [hfound]
    rfl
  | some note =>
    rw [hfind] at hfound
    obtain ⟨_, rest, ⟨⟩, hr, htaken⟩ := hfound
    rw [htaken _ _ _ rfl (stops_cons.2 (by decide)) (note.takes rest)]
    rfl

/-- The relationship of a column to the column that it refers to. -/
def relationship (table : String) (name : BareName) (target : BareName × BareName) :
    Relationship where
  fromTable := table
  fromColumn := String.ofList name.chars
  toTable := String.ofList target.1.chars
  toColumn := String.ofList target.2.chars
  cardinality := .manyToOne

theorem referencesOf_eq_findSome? {m : Match} {name : BareName} (hq : ∀ a ∈ as, a.Quiet)
    (hw : Written (as.flatMap Attribute.tokens) (m.text "tail")) (hn : m.text "name" = name.chars)
    (table : String) (offset : Nat) :
    referencesOf table offset m =
      (((as.findSome? Attribute.target?).map (relationship table name)).toList, []) := by
  have hfound := found_value Attribute.target? (fun target => .target target.1 target.2)
    agrees_keyed_reference (by decide) (fun a n h => by cases a <;> cases h; rfl)
    (fun a h => by
      rcases a with (_ | _ | _) | _ | _ | _ | _ <;> first | rfl | simp [Attribute.opening] at h)
    hq hw
  rw [referencesOf_eq, hn]
  cases hfind : as.findSome? Attribute.target? with
  | none =>
    rw [hfind] at hfound
    rw [hfound]
    rfl
  | some target =>
    rw [hfind] at hfound
    obtain ⟨_, rest, hwrites, hr, htaken⟩ := hfound
    cases hwrites with
    | target _ _ ho hb ha =>
      have hstops := target.1.stops (fun _ => Text.isBlank_eq_false_of_isWord)
      rw [htaken _ _ _ rfl (by rw [List.append_assoc]; exact hstops _)
        (takes_referenceEnd target.1 target.2 ho hb ha rest)]
      next outside before behind =>
      have hkeys : foreignKeys table name.chars target.1.chars
          (before ++ (target.2.chars ++ behind)) offset =
          ([relationship table name target], []) := by
        simp [foreignKeys, name.cleanList, target.2.cleanList_spaced hb ha, target.1.clean,
          relationship]
      exact hkeys

end Searches

section Columns

/-- A bare name, blanks and a type, which may have arguments in parentheses. -/
structure BareHead where
  name : BareName
  space : List Char
  space_ne : space ≠ []
  blank : ∀ c ∈ space, isBlank c
  word : BareName
  inner : Option (List Char)
  closed : ∀ text ∈ inner, ')' ∉ text

namespace BareHead

variable (head : BareHead)

def arguments : List Char :=
  head.inner.elim [] enclosed

def type : List Char :=
  head.word.chars ++ head.arguments

def chars : List Char :=
  head.name.chars ++ (head.space ++ head.type)

/-- The column that the attributes describe; of each kind of value, the first counts. -/
def column (attributes : List Attribute) : Column where
  name := String.ofList head.name.chars
  type := String.ofList (Text.lower head.type)
  primaryKey := decide (.flag .primaryKey ∈ attributes)
  notNull := decide (.flag .notNull ∈ attributes)
  unique := decide (.flag .unique ∈ attributes)
  autoIncrement := decide (.autoIncrement ∈ attributes) || isSerial head.type
  default := (attributes.findSome? Attribute.default?).map fun n => String.ofList n.chars
  note := (attributes.findSome? Attribute.note?).map fun note => String.ofList note.chars

end BareHead

variable {head : BareHead} {attributes : List Attribute} {text gap tail : List Char}

theorem BareHead.precedes (hg : ∀ c ∈ gap, isBlank c) (ha : Apart (gap ++ tail))
    (ht : Stops isBlank tail) :
    (⟨head.name.chars, head.space, head.word.chars, head.arguments, gap⟩ : Head).Precedes tail where
  name := head.name.isName
  space_ne := head.space_ne
  space := head.blank
  word_ne := head.word.ne_nil
  word := head.word.word
  stops := by
    unfold arguments
    cases head.inner with
    | none => exact ha.stops_isWord
    | some inner => exact stops_cons.2 (by decide)
  arguments := by
    have hclosed := head.closed
    unfold arguments
    cases hi : head.inner with
    | none =>
      refine .none fun more he => ?_
      rw [show gap ++ tail = '(' :: more from he] at ha
      exact absurd (stops_cons.1 ha) (by decide)
    | some inner => exact .list (hclosed inner hi) _
  gap := hg
  tail := ht

theorem Attribute.exists_tokens (a : Attribute) :
    ∃ letters more, a.tokens = .keyword letters :: more ∧ isKeyword letters := by
  cases a with
  | flag f => cases f <;> exact ⟨_, _, rfl, by decide⟩
  | autoIncrement | default | comment | reference => exact ⟨_, _, rfl, by decide⟩

theorem exists_tail (h : Behind (attributes.flatMap Attribute.tokens) text) :
    ∃ gap tail, text = gap ++ tail ∧ (∀ c ∈ gap, isBlank c) ∧ Stops isBlank tail ∧
      Written (attributes.flatMap Attribute.tokens) tail := by
  cases attributes with
  | nil =>
    cases h
    exact ⟨[], [], rfl, by simp, stops_nil _, rfl⟩
  | cons a attributes =>
    obtain ⟨letters, more, htokens, hk⟩ := a.exists_tokens
    rw [List.flatMap_cons, htokens] at h ⊢
    cases h with
    | cons hne hg hw hr =>
      next gap key rest =>
      refine ⟨gap, key ++ rest, rfl, hg, ?_, key, rest, rfl, hw, hr⟩
      cases hw with
      | keyword hspelled =>
        obtain ⟨c, key, rfl⟩ := List.exists_cons_of_ne_nil (ne_nil_of_spells hk hspelled)
        exact stops_cons.2
          (Text.isBlank_eq_false_of_isWord (isWord_of_spells hk hspelled c List.mem_cons_self))

/-- Attributes are read independently of their order: from a column clause with any sequence of
attributes, in any case and with any blanks between them, exactly what they say is read, if no free
text in them holds a word with which a rule starts. -/
theorem readColumn_attributes (table : String) (offset : Nat) (head : BareHead)
    (h : Behind (attributes.flatMap Attribute.tokens) text) (hq : ∀ a ∈ attributes, a.Quiet) :
    readColumn table ⟨offset, head.chars ++ text⟩ =
      ⟨some (head.column attributes),
        ((attributes.findSome? Attribute.target?).map (relationship table head.name)).toList,
        []⟩ := by
  have hapart := h.apart
  obtain ⟨gap, tail, rfl, hg, hstops, hw⟩ := exists_tail h
  obtain ⟨m, hm, hx⟩ := (head.precedes hg hapart hstops).exists_matchStart
  have htext : head.chars ++ (gap ++ tail) =
      (⟨head.name.chars, head.space, head.word.chars, head.arguments, gap⟩ : Head).chars ++
        tail := by
    simp [BareHead.chars, BareHead.type, Head.chars, Head.type]
  have htail : m.text "tail" = tail := text_eq hx "tail"
  have hname : m.text "name" = head.name.chars := text_eq hx "name"
  have htype : m.text "type" = head.type := text_eq hx "type"
  have hcolumn : columnOf m = head.column attributes := by
    have hkey : (primaryKey.search tail).isSome = _ := isSome_flagRule .primaryKey hq hw
    have hnull : (notNull.search tail).isSome = _ := isSome_flagRule .notNull hq hw
    have hunique : (unique.search tail).isSome = _ := isSome_flagRule .unique hq hw
    simp only [columnOf, htail, hname, htype, head.name.clean, hkey, hnull, hunique,
      isSome_autoIncrement hq hw, defaultOf_eq_findSome? hq hw, noteOf_eq_findSome? hq hw,
      Option.map_map]
    rfl
  have hreferences := referencesOf_eq_findSome? hq (htail ▸ hw) hname table offset
  rw [readColumn, htext, hm]
  simp only [hcolumn, hreferences]

def sampleHead : BareHead where
  name := ⟨"n1".toList, by decide, List.all_eq_true.1 (by decide)⟩
  space := "  ".toList
  space_ne := by decide
  blank := List.all_eq_true.1 (by decide)
  word := ⟨"VARCHAR".toList, by decide, List.all_eq_true.1 (by decide)⟩
  inner := some "1 0(".toList
  closed := by simp

def sampleAttributes : List Attribute :=
  [.comment ⟨"null key".toList, by decide, by simp [commentMark]⟩, .flag .unique,
    .default ⟨true, "12".toList, by decide, List.all_eq_true.1 (by decide)⟩, .flag .notNull,
    .autoIncrement,
    .reference ⟨"u".toList, by decide, List.all_eq_true.1 (by decide)⟩
      ⟨"c".toList, by decide, List.all_eq_true.1 (by decide)⟩,
    .flag .primaryKey]

def sampleText : List Char :=
  " ".toList ++ ("Comment".toList ++ ("\t".toList ++ ("'null key'".toList ++ (" ".toList ++
    ("unique".toList ++ (" ".toList ++ ("DEFAULT".toList ++ (" ".toList ++ ("-12".toList ++
      ("  ".toList ++ ("not".toList ++ ("\n".toList ++ ("NULL".toList ++ (" ".toList ++
        ("auto_Increment".toList ++ (" ".toList ++ ("references".toList ++ (" ".toList ++
          ("u(c)".toList ++ (" ".toList ++ ("primary".toList ++ (" ".toList ++
            ("Key".toList ++ [])))))))))))))))))))))))

theorem behind_sampleText : Behind (sampleAttributes.flatMap Attribute.tokens) sampleText := by
  refine .cons (by decide) (List.all_eq_true.1 (by decide)) (.keyword (by decide)) ?_
  refine .cons (by decide) (List.all_eq_true.1 (by decide)) (.value _) ?_
  iterate 2 refine .cons (by decide) (List.all_eq_true.1 (by decide)) (.keyword (by decide)) ?_
  refine .cons (by decide) (List.all_eq_true.1 (by decide)) (.value _) ?_
  iterate 4 refine .cons (by decide) (List.all_eq_true.1 (by decide)) (.keyword (by decide)) ?_
  refine .cons (by decide) (List.all_eq_true.1 (by decide)) ?_ ?_
  · exact @Token.Writes.target _ _ [] [] [] (by simp) (by simp) (by simp)
  iterate 2 refine .cons (by decide) (List.all_eq_true.1 (by decide)) (.keyword (by decide)) ?_
  exact .nil

theorem readColumn_sampleAttributes :
    (∀ a ∈ sampleAttributes, a.Quiet) ∧
      readColumn "t" ⟨5, sampleHead.chars ++ sampleText⟩ =
        ⟨some (sampleHead.column sampleAttributes),
          ((sampleAttributes.findSome? Attribute.target?).map
            (relationship "t" sampleHead.name)).toList, []⟩ := by
  have hquiet : ∀ a ∈ sampleAttributes, a.Quiet := by decide
  exact ⟨hquiet, readColumn_attributes "t" 5 sampleHead behind_sampleText hquiet⟩

end Columns

end SchemaText.Sql.ColumnClause
