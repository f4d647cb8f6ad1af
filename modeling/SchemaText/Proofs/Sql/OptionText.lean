import SchemaText.Proofs.Pattern.Spelled
import SchemaText.Proofs.Sql.Grammar
import SchemaText.Proofs.Sql.LiteralSearch
import SchemaText.Proofs.Sql.NameSequence
/-! The options of a column as tokens with blanks between them, and the searches that pass over
them. -/

namespace SchemaText.Sql

def Core.Flag.keywords : Core.Flag → List String
  | notNull => ["NOT", "NULL"]
  | unique => ["UNIQUE"]
  | primaryKey => ["PRIMARY", "KEY"]

namespace ColumnClause

open Pattern
open Sql.ColumnClause.Frame (found)
open Text (Stops stops_nil stops_cons isBlank isWord)

/-- A name without marks. -/
structure BareName where
  chars : List Char
  ne_nil : chars ≠ []
  word : ∀ c ∈ chars, isWord c
  deriving DecidableEq

/-- An integer in decimal. -/
structure Numeral where
  negative : Bool
  digits : List Char
  ne_nil : digits ≠ []
  digit : ∀ c ∈ digits, c.isDigit
  deriving DecidableEq

def Numeral.chars (n : Numeral) : List Char :=
  if n.negative then '-' :: n.digits else n.digits

/-- A text without quotation marks. -/
structure Note where
  chars : List Char
  ne_nil : chars ≠ []
  unmarked : ∀ c ∈ chars, commentMark c = false
  deriving DecidableEq

/-- A keyword in any case, a value, or a column of another table. -/
inductive Token where
  | keyword (letters : String)
  | value (chars : List Char)
  | target (table column : BareName)
  deriving DecidableEq

/-- How a token is written: there may be blanks on both sides of each parenthesis. -/
inductive Token.Writes : Token → List Char → Prop where
  | keyword {letters : String} {chars : List Char} (h : spells letters chars) :
    Writes (.keyword letters) chars
  | value (chars : List Char) : Writes (.value chars) chars
  | target (table column : BareName) {outside before behind : List Char}
    (ho : ∀ c ∈ outside, isBlank c) (hb : ∀ c ∈ before, isBlank c) (ha : ∀ c ∈ behind, isBlank c) :
    Writes (.target table column)
      (table.chars ++ (outside ++ '(' :: (before ++ (column.chars ++ (behind ++ [')'])))))

/-- Tokens, each with blanks before it. -/
inductive Behind : List Token → List Char → Prop where
  | nil : Behind [] []
  | cons {token : Token} {tokens : List Token} {gap word rest : List Char} (hne : gap ≠ [])
    (hg : ∀ c ∈ gap, isBlank c) (hw : token.Writes word) (hr : Behind tokens rest) :
    Behind (token :: tokens) (gap ++ (word ++ rest))

/-- Tokens with blanks between them. -/
def Written : List Token → List Char → Prop
  | [], text => text = []
  | token :: tokens, text =>
    ∃ word rest, text = word ++ rest ∧ token.Writes word ∧ Behind tokens rest

/-- The letters stand in the token, in any case. -/
def Token.holds (letters : String) : Token → Bool
  | keyword own => Pattern.holds letters own.toList
  | value chars => Pattern.holds letters chars
  | target table column => Pattern.holds letters table.chars || Pattern.holds letters column.chars

def Apart (rest : List Char) : Prop :=
  Stops (fun c => !isBlank c) rest

section Blanks

variable {gap rest more : List Char} {tokens : List Token}

theorem Apart.stops {accepts : Char → Bool} (h : Apart rest)
    (hb : ∀ c, isBlank c → accepts c = false) : Stops accepts rest := by
  intro c hc
  exact hb c (by simpa using h c hc)

theorem Apart.stops_isWord (h : Apart rest) : Stops isWord rest :=
  h.stops fun _ => Text.isWord_eq_false_of_isBlank

theorem apart_append (hne : gap ≠ []) (hg : ∀ c ∈ gap, isBlank c) (rest : List Char) :
    Apart (gap ++ rest) := by
  obtain ⟨c, gap, rfl⟩ := List.exists_cons_of_ne_nil hne
  exact stops_cons.2 (by simp [hg c List.mem_cons_self])

theorem Behind.apart {text : List Char} (h : Behind tokens text) : Apart text := by
  cases h with
  | nil => exact stops_nil _
  | cons hne hg _ _ => exact apart_append hne hg _

theorem Behind.apart_append {text : List Char} (h : Behind tokens text) (hr : Apart rest) :
    Apart (text ++ rest) := by
  cases h with
  | nil => exact hr
  | cons hne hg _ _ =>
    rw [List.append_assoc]
    exact ColumnClause.apart_append hne hg _

theorem exists_gap_of_append {taken : List Char} {c : Char} (hg : ∀ d ∈ gap, isBlank d)
    (ht : ∀ d ∈ taken, isBlank d) (hc : isBlank c = false)
    (he : gap ++ c :: rest = taken ++ more) :
    ∃ gap', more = gap' ++ c :: rest ∧ ∀ d ∈ gap', isBlank d := by
  rcases List.append_eq_append_iff.1 he with ⟨ws, rfl, hr⟩ | ⟨ws, rfl, hr⟩
  · cases ws with
    | nil => exact ⟨[], hr.symm, by simp⟩
    | cons w ws =>
      obtain ⟨rfl, _⟩ := List.cons.inj hr
      rw [ht c (by simp)] at hc
      cases hc
  · exact ⟨ws, hr, fun d hd => hg d (List.mem_append_right _ hd)⟩

theorem stops_gap_append {c : Char} {accepts : Char → Bool} (hg : ∀ d ∈ gap, isBlank d)
    (hb : ∀ d, isBlank d → accepts d = false) (hc : accepts c = false) (rest : List Char) :
    Stops accepts (gap ++ c :: rest) := by
  cases gap with
  | nil => exact stops_cons.2 hc
  | cons d gap => exact stops_cons.2 (hb d (hg d List.mem_cons_self))

end Blanks

section Splits

variable {xs ys : List Token} {token : Token} {text : List Char}

theorem Behind.exists_append (h : Behind (xs ++ ys) text) :
    ∃ front back, text = front ++ back ∧ Behind xs front ∧ Behind ys back := by
  induction xs generalizing text with
  | nil => exact ⟨[], text, rfl, .nil, h⟩
  | cons x xs ih =>
    cases h with
    | cons hne hg hw hr =>
      obtain ⟨front, back, rfl, hf, hb⟩ := ih hr
      exact ⟨_, back, by simp only [List.append_assoc], .cons hne hg hw hf, hb⟩

theorem Written.exists_split (h : Written (xs ++ token :: ys) text) :
    ∃ front gap word rest, text = front ++ (gap ++ (word ++ rest)) ∧ Written xs front ∧
      (∀ c ∈ gap, isBlank c) ∧ (xs ≠ [] → gap ≠ []) ∧ token.Writes word ∧ Behind ys rest := by
  cases xs with
  | nil =>
    obtain ⟨word, rest, rfl, hw, hr⟩ := h
    exact ⟨[], [], word, rest, rfl, rfl, by simp, fun hn => absurd rfl hn, hw, hr⟩
  | cons x xs =>
    obtain ⟨first, rest, rfl, hfirst, hr⟩ := h
    obtain ⟨front, back, rfl, hf, hb⟩ := hr.exists_append
    cases hb with
    | cons hne hg hw hrest =>
      exact ⟨first ++ front, _, _, _, by simp only [List.append_assoc],
        ⟨first, front, rfl, hfirst, hf⟩, hg, fun _ => hne, hw, hrest⟩

end Splits

section Tokens

variable {letters : String} {token : Token} {word : List Char}

theorem BareName.stops (name : BareName) {accepts : Char → Bool}
    (h : ∀ c, isWord c → accepts c = false) (rest : List Char) :
    Stops accepts (name.chars ++ rest) := by
  obtain ⟨c, chars, hc⟩ := List.exists_cons_of_ne_nil name.ne_nil
  rw [hc]
  exact stops_cons.2 (h c (name.word c (by rw [hc]; exact List.mem_cons_self)))

theorem Token.Writes.holds_eq (h : token.Writes word) (hk : isKeyword letters) :
    Pattern.holds letters word = token.holds letters := by
  have hblank {gap : List Char} (hg : ∀ c ∈ gap, isBlank c) : Pattern.holds letters gap = false :=
    holds_eq_false hk fun c hc => Text.isWord_eq_false_of_isBlank (hg c hc)
  cases h with
  | keyword h => exact holds_congr (spells_iff_map.1 h).symm
  | value => rfl
  | target table column ho hb ha =>
    next outside before behind =>
    have hstops {gap rest : List Char} {c : Char} (hg : ∀ c ∈ gap, isBlank c)
        (hc : isWord c = false) : Stops isWord (gap ++ c :: rest) :=
      stops_gap_append hg (fun _ => Text.isWord_eq_false_of_isBlank) hc rest
    have hmark {c : Char} (hc : isWord c = false) : Pattern.holds letters [c] = false :=
      holds_eq_false hk (List.forall_mem_singleton.2 hc)
    have hopen : Pattern.holds letters ['('] = false := hmark (by decide)
    have hclose : Pattern.holds letters [')'] = false := hmark (by decide)
    have hparted {gap rest : List Char} (hg : ∀ c ∈ gap, isBlank c) : Parted gap rest := by
      refine .inl ?_
      cases hl : gap.getLast? with
      | none => rfl
      | some c => exact Text.isWord_eq_false_of_isBlank (hg c (List.mem_of_getLast? hl))
    rw [holds_append hk (.inr (hstops ho (by decide))), holds_append hk (hparted ho), hblank ho,
      ← List.singleton_append, holds_append hk (.inl (by decide)), hopen,
      holds_append hk (hparted hb), hblank hb,
      holds_append hk (.inr (hstops ha (by decide))), holds_append hk (hparted ha), hblank ha,
      hclose]
    simp [Token.holds]

def Mute (p : Pattern) (token : Token) : Prop :=
  ∀ word rest, token.Writes word → Apart rest → p.Silent word rest

theorem mute_of_holds {p : Pattern} {openings : List String} (h : LedBy openings p)
    (hn : ∀ letters ∈ openings, token.holds letters = false) : Mute p token := by
  intro word rest hw hr
  refine h.silent (fun letters hl => ?_) (.inr hr.stops_isWord)
  rw [hw.holds_eq (List.all_eq_true.1 h.keywords letters hl), hn letters hl]

end Tokens

section Passing

variable {p : Pattern} {openings : List String} {xs ys tokens : List Token} {token : Token}
  {text rest tail : List Char} {s : Spot}

theorem LedBy.silent_gap {gap : List Char} (h : LedBy openings p) (hg : ∀ c ∈ gap, isBlank c)
    (rest : List Char) : p.Silent gap rest :=
  h.silent_of_not_isWord (fun c hc => Text.isWord_eq_false_of_isBlank (hg c hc)) rest

theorem Behind.silent (h : Behind tokens text) (hp : LedBy openings p)
    (hm : ∀ token ∈ tokens, Mute p token) (hr : Apart rest) : p.Silent text rest := by
  induction h with
  | nil => exact silent_nil p rest
  | cons hne hg hw hb ih =>
    have hword := hm _ List.mem_cons_self _ _ hw (hb.apart_append hr)
    exact (LedBy.silent_gap hp hg _).append
      (hword.append (ih fun token ht => hm token (List.mem_cons_of_mem _ ht)))

theorem Written.silent (h : Written tokens text) (hp : LedBy openings p)
    (hm : ∀ token ∈ tokens, Mute p token) (hr : Apart rest) : p.Silent text rest := by
  cases tokens with
  | nil =>
    obtain rfl : text = [] := h
    exact silent_nil p rest
  | cons token tokens =>
    obtain ⟨word, more, rfl, hw, hb⟩ := h
    have hword := hm _ List.mem_cons_self _ _ hw (hb.apart_append hr)
    exact hword.append (hb.silent hp (fun token ht => hm token (List.mem_cons_of_mem _ ht)) hr)

theorem found_eq_none (h : Written tokens tail) (hp : LedBy openings p)
    (hm : ∀ token ∈ tokens, Mute p token) : found p tail = none := by
  have hsilent : p.Silent tail [] := h.silent hp hm (stops_nil _)
  rw [found, map_search, hsilent.textsFrom_eq (List.append_nil tail).symm]
  exact textsFrom_of_nil rfl (hp.failsOn_of_stops (stops_nil _))

theorem Written.exists_front (h : Written (xs ++ token :: ys) tail) :
    ∃ front word rest, tail = front ++ (word ++ rest) ∧ token.Writes word ∧ Behind ys rest ∧
      front.getLast?.any isWord = false ∧
      ∀ {p : Pattern} {openings : List String}, LedBy openings p →
        (∀ token ∈ xs, Mute p token) → p.Silent front (word ++ rest) := by
  obtain ⟨front, gap, word, rest, rfl, hf, hg, hne, hw, hr⟩ := h.exists_split
  refine ⟨front ++ gap, word, rest, (List.append_assoc ..).symm, hw, hr, ?_, fun hp hm => ?_⟩
  · cases hgap : gap.getLast? with
    | some c => simp [hgap, Text.isWord_eq_false_of_isBlank (hg c (List.mem_of_getLast? hgap))]
    | none =>
      obtain rfl := List.getLast?_eq_none_iff.1 hgap
      obtain rfl : xs = [] := by_contra fun hxs => hne hxs rfl
      obtain rfl : front = [] := hf
      rfl
  · refine Silent.append ?_ (LedBy.silent_gap hp hg _)
    by_cases hxs : xs = []
    · obtain rfl : front = [] := by rwa [hxs] at hf
      exact silent_nil _ _
    · exact hf.silent hp hm (apart_append (hne hxs) hg _)

def spotBehind (front rest : List Char) : Spot :=
  (⟨0, none, front ++ rest, []⟩ : Spot).past front rest

theorem found_eq_textsFrom {front : List Char} (h : p.Silent front rest) :
    found p (front ++ rest) = p.textsFrom (spotBehind front rest) := by
  rw [found, map_search]
  exact h.textsFrom_eq rfl

theorem before_spotBehind {front : List Char} (h : front.getLast?.any isWord = false)
    (rest : List Char) : (spotBehind front rest).before.any isWord = false := by
  show (front.getLast?.or none).any isWord = false
  rwa [Option.or_none]

theorem ledBy_keyed {letters : String} (hk : isKeyword letters) (q : Pattern) :
    LedBy [letters] (keyed letters q) :=
  ((ledBy_word hk).append _).wordEdge_append

theorem found_keyed {letters : String} {q : Pattern} {value : Token}
    (h : Written (xs ++ .keyword letters :: value :: ys) tail) (hk : isKeyword letters)
    (ha : p.Agrees (keyed letters q)) (hm : ∀ token ∈ xs, Mute p token) :
    ∃ chars rest, value.Writes chars ∧ Apart rest ∧
      ∀ taken after texts, chars ++ rest = taken ++ after → Stops isBlank (taken ++ after) →
        q.Takes taken after texts → found p tail = some texts := by
  obtain ⟨front, key, back, rfl, hkey, hb, hfront, hsilent⟩ := h.exists_front
  cases hkey with
  | keyword hspelled =>
    cases hb with
    | cons hne hg hw hr =>
      next gap chars rest =>
      refine ⟨chars, rest, hw, hr.apart, fun taken after texts he hs hq => ?_⟩
      have htakes := (takes_spelled hspelled _).append ((takes_oneOrMore hne hg hs).append hq)
      rw [List.append_nil, List.append_nil] at htakes
      obtain ⟨c, key', rfl⟩ := List.exists_cons_of_ne_nil (ne_nil_of_spells hk hspelled)
      have hc : isWord c := isWord_of_spells hk hspelled c List.mem_cons_self
      let s := spotBehind front (c :: key' ++ (gap ++ (chars ++ rest)))
      obtain ⟨t, ht, hx⟩ : ∃ t, (keyed letters q).Leads s t ∧ t.texts = texts ++ s.texts :=
        htakes.leads_wordEdge_append (by simpa using hc) (before_spotBehind hfront _)
          (by simp [s, spotBehind, Spot.past, he])
      rw [found_eq_textsFrom (hsilent (ha.ledBy (ledBy_keyed hk q)) hm), ha.textsFrom_eq,
        textsFrom_of_leads ht, hx]
      exact congrArg some (List.append_nil texts)

theorem Behind.exists_keyword {letters : String} (h : Behind (.keyword letters :: ys) text)
    (hk : isKeyword letters) :
    ∃ gap key rest, text = gap ++ (key ++ rest) ∧ blanks.Takes gap (key ++ rest) [] ∧
      spells letters key ∧ Behind ys rest := by
  cases h with
  | cons hne hg hw hr =>
    next gap key rest =>
    cases hw with
    | keyword hspelled =>
      have hstops : Stops isBlank (key ++ rest) := by
        obtain ⟨c, key, rfl⟩ := List.exists_cons_of_ne_nil (ne_nil_of_spells hk hspelled)
        exact stops_cons.2
          (Text.isBlank_eq_false_of_isWord (isWord_of_spells hk hspelled c List.mem_cons_self))
      exact ⟨gap, key, rest, rfl, takes_oneOrMore hne hg hstops, hspelled, hr⟩

theorem isSome_search_of_takes {letters : String}
    (h : Written (xs ++ .keyword letters :: ys) tail)
    (hp : ∀ key text, spells letters key → Behind ys text →
      ∃ taken rest, key ++ text = taken ++ rest ∧ p.Takes taken rest []) :
    (p.search tail).isSome := by
  obtain ⟨front, key, back, rfl, hkey, hb, _⟩ := h.exists_front
  cases hkey with
  | keyword hspelled =>
    obtain ⟨taken, rest, he, htakes⟩ := hp key back hspelled hb
    rw [he]
    exact htakes.isSome_search front

theorem isSome_search_phrase {first second : String} (hk : isKeyword second)
    (h : Written (xs ++ .keyword first :: .keyword second :: ys) tail) :
    ((phrase [first, second]).search tail).isSome := by
  refine isSome_search_of_takes h fun key text hkey hb => ?_
  obtain ⟨gap, next, rest, rfl, hgap, hnext, _⟩ := hb.exists_keyword hk
  refine ⟨key ++ (gap ++ next), rest, by simp only [List.append_assoc], ?_⟩
  exact (takes_spelled hkey _).append (hgap.append (takes_spelled hnext rest))

end Passing

end ColumnClause

end SchemaText.Sql
