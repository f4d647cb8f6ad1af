import SchemaText.Sql.Comment
import SchemaText.Sql.Token
/-! Comments as one pass over a text finds them, which also knows quotations, and the texts on which
blanking the lines first and the blocks afterwards comes to the same. -/

namespace SchemaText.Sql.Comment

/-- What a place in a text lies in. -/
inductive Region where
  | code
  | quotation (mark : Char)
  | line
  | block
  deriving Repr, DecidableEq

/-- Blanks the comments in one pass. Neither kind of comment starts in the other or in a quotation,
and a block that nothing closes is no comment. -/
def scan : Region → List Char → List Char
  | _, [] => []
  | .code, '-' :: '-' :: rest => ' ' :: ' ' :: scan .line rest
  | .code, '/' :: '*' :: rest =>
    if closes rest then ' ' :: ' ' :: scan .block rest else '/' :: '*' :: scan .code rest
  | .code, c :: rest => c :: scan (if Literal.isMark c then .quotation c else .code) rest
  | .quotation mark, c :: rest => c :: scan (if c = mark then .code else .quotation mark) rest
  | .line, c :: rest => blank c :: scan (if c = '\n' then .code else .line) rest
  | .block, '*' :: '/' :: rest => ' ' :: ' ' :: scan .code rest
  | .block, c :: rest => blank c :: scan .block rest

/-- The text with the comments blanked that a reader of the language sees in it. -/
def scanned (sql : List Char) : List Char :=
  scan .code (foldLineEnds sql)

def startsLine : List Char → Bool
  | '-' :: '-' :: _ => true
  | _ => false

def startsBlock : List Char → Bool
  | '/' :: '*' :: rest => closes rest
  | _ => false

def closesInLine (text : List Char) : Bool :=
  closes (text.takeWhile (· ≠ '\n'))

/-- Nothing in a quotation looks like a comment, and no two hyphens stand in a block on the line on
which it is closed. -/
def unmixed : Region → List Char → Bool
  | _, [] => true
  | .code, '-' :: '-' :: rest => unmixed .line rest
  | .code, '/' :: '*' :: rest => unmixed (if closes rest then .block else .code) rest
  | .code, c :: rest => unmixed (if Literal.isMark c then .quotation c else .code) rest
  | .quotation mark, c :: rest =>
    !startsLine (c :: rest) && !startsBlock (c :: rest) &&
      unmixed (if c = mark then .code else .quotation mark) rest
  | .line, c :: rest => unmixed (if c = '\n' then .code else .line) rest
  | .block, '*' :: '/' :: rest => unmixed .code rest
  | .block, c :: rest =>
    !(startsLine (c :: rest) && closesInLine (c :: rest)) && unmixed .block rest

theorem blank_blank (c : Char) : blank (blank c) = blank c := by
  unfold blank
  split <;> rfl

theorem blank_ne {c mark : Char} (h : mark ≠ ' ') (k : mark ≠ '\n') : blank c ≠ mark := by
  unfold blank
  split
  · exact k.symm
  · exact h.symm

theorem startsLine_eq_false_iff {c : Char} {rest : List Char} :
    startsLine (c :: rest) = false ↔ ∀ tail, c = '-' → rest = '-' :: tail → False := by
  constructor
  · rintro h tail rfl rfl
    simp [startsLine] at h
  · intro h
    unfold startsLine
    split
    · next heq =>
      obtain ⟨rfl, rfl⟩ := List.cons.inj heq
      exact (h _ rfl rfl).elim
    · rfl

theorem startsBlock_eq_false_of {c : Char} {rest : List Char}
    (h : ∀ tail, c = '/' → rest = '*' :: tail → False) : startsBlock (c :: rest) = false := by
  unfold startsBlock
  split
  · next heq => exact (h _ (List.cons.inj heq).1 (List.cons.inj heq).2).elim
  · rfl

theorem startsBlock_blank_cons (c : Char) (rest : List Char) :
    startsBlock (blank c :: rest) = false :=
  startsBlock_eq_false_of fun _ hc _ => blank_ne (by decide) (by decide) hc

theorem blankLines_true_cons (c : Char) (rest : List Char) :
    blankLines true (c :: rest) = blank c :: blankLines (c ≠ '\n') rest := by
  rw [blankLines]

theorem blankLines_false_cons {c : Char} {rest : List Char} (h : startsLine (c :: rest) = false) :
    blankLines false (c :: rest) = c :: blankLines false rest := by
  rw [blankLines]
  exact startsLine_eq_false_iff.1 h

theorem blankLines_false_of_startsLine {text : List Char} (h : startsLine text) :
    blankLines false text = blankLines true text := by
  unfold startsLine at h
  split at h
  · rfl
  · cases h

theorem exists_blankLines_cons (inLine : Bool) (c : Char) (rest : List Char) :
    ∃ d inLine', blankLines inLine (c :: rest) = d :: blankLines inLine' rest ∧
      (d = c ∨ d = blank c) := by
  cases inLine with
  | true => exact ⟨_, _, blankLines_true_cons c rest, .inr rfl⟩
  | false =>
    cases hs : startsLine (c :: rest) with
    | true =>
      rw [blankLines_false_of_startsLine hs]
      exact ⟨_, _, blankLines_true_cons c rest, .inr rfl⟩
    | false => exact ⟨c, false, blankLines_false_cons hs, .inl rfl⟩

theorem exists_of_blankLines_eq_cons {inLine : Bool} {text out : List Char} {c : Char}
    (h : blankLines inLine text = c :: out) (hb : c ≠ ' ') (hn : c ≠ '\n') :
    ∃ rest inLine', text = c :: rest ∧ out = blankLines inLine' rest := by
  cases text with
  | nil => simp [blankLines] at h
  | cons d rest =>
    obtain ⟨e, inLine', hd, he⟩ := exists_blankLines_cons inLine d rest
    obtain ⟨rfl, rfl⟩ := List.cons.inj (hd.symm.trans h)
    obtain rfl := he.resolve_right (blank_ne hb hn).symm
    exact ⟨rest, inLine', rfl, rfl⟩

theorem closes_cons (c : Char) (rest : List Char) :
    closes (c :: rest) = (['*', '/'].isPrefixOf (c :: rest) || closes rest) := rfl

theorem closes_cons_of_closes {c : Char} {rest : List Char} (h : closes rest) :
    closes (c :: rest) := by
  rw [closes_cons, h, Bool.or_true]

theorem isPrefixOf_closing_iff {text : List Char} :
    ['*', '/'].isPrefixOf text ↔ ∃ rest, text = '*' :: '/' :: rest := by
  rw [List.isPrefixOf_iff_prefix]
  exact ⟨fun ⟨rest, h⟩ => ⟨rest, h.symm⟩, fun ⟨rest, h⟩ => ⟨rest, h.symm⟩⟩

theorem isPrefixOf_closing_cons_eq_false_of {c : Char} {rest : List Char}
    (h : ∀ tail, c = '*' → rest = '/' :: tail → False) :
    ['*', '/'].isPrefixOf (c :: rest) = false := by
  refine Bool.eq_false_iff.2 fun k => ?_
  obtain ⟨tail, heq⟩ := isPrefixOf_closing_iff.1 k
  exact h tail (List.cons.inj heq).1 (List.cons.inj heq).2

theorem closing_of_closing_blankLines {inLine : Bool} {text : List Char}
    (h : ['*', '/'].isPrefixOf (blankLines inLine text)) : ['*', '/'].isPrefixOf text := by
  obtain ⟨tail, ht⟩ := isPrefixOf_closing_iff.1 h
  obtain ⟨_, _, rfl, hr⟩ := exists_of_blankLines_eq_cons ht (by decide) (by decide)
  obtain ⟨_, _, rfl, _⟩ := exists_of_blankLines_eq_cons hr.symm (by decide) (by decide)
  rfl

theorem closes_of_closes_blankLines {inLine : Bool} {text : List Char}
    (h : closes (blankLines inLine text)) : closes text := by
  induction text generalizing inLine with
  | nil => simp [blankLines, closes] at h
  | cons c rest ih =>
    obtain ⟨d, inLine', hd, _⟩ := exists_blankLines_cons inLine c rest
    rw [hd, closes_cons] at h
    rcases Bool.or_eq_true_iff.1 h with hp | hc
    · rw [closes_cons, closing_of_closing_blankLines (hd ▸ hp), Bool.true_or]
    · exact closes_cons_of_closes (ih hc)

theorem closesInLine_cons (c : Char) (rest : List Char) (h : c ≠ '\n')
    (k : closesInLine rest) : closesInLine (c :: rest) := by
  unfold closesInLine
  rw [List.takeWhile_cons_of_pos (by simpa using h)]
  exact closes_cons_of_closes k

def Tracks : Region → Bool → List Char → Prop
  | .line, inLine, _ => inLine = true
  | .block, inLine, text => inLine = true → closesInLine text = false
  | _, inLine, _ => inLine = false

theorem exists_blankLines_block {inLine : Bool} {c : Char} {rest : List Char}
    (hs : (startsLine (c :: rest) && closesInLine (c :: rest)) = false)
    (ht : Tracks .block inLine (c :: rest)) :
    ∃ d inLine', blankLines inLine (c :: rest) = d :: blankLines inLine' rest ∧
      (d = c ∨ d = blank c) ∧ Tracks .block inLine' rest := by
  have htrue (hc : closesInLine (c :: rest) = false) :
      ∃ d inLine', blankLines true (c :: rest) = d :: blankLines inLine' rest ∧
        (d = c ∨ d = blank c) ∧ Tracks .block inLine' rest := by
    refine ⟨_, _, blankLines_true_cons c rest, .inr rfl, fun hn => ?_⟩
    exact Bool.eq_false_iff.2 fun k =>
      Bool.eq_false_iff.1 hc (closesInLine_cons c rest (by simpa using hn) k)
  cases inLine with
  | true => exact htrue (ht rfl)
  | false =>
    cases hl : startsLine (c :: rest) with
    | true =>
      rw [blankLines_false_of_startsLine hl]
      exact htrue (by simpa [hl] using hs)
    | false => exact ⟨c, false, blankLines_false_cons hl, .inl rfl, nofun⟩

theorem unmixed_block_cons {c : Char} {rest : List Char} (h : unmixed .block (c :: rest))
    (k : ['*', '/'].isPrefixOf (c :: rest) = false) :
    (startsLine (c :: rest) && closesInLine (c :: rest)) = false ∧ unmixed .block rest := by
  rw [unmixed] at h
  · obtain ⟨hs, hu⟩ := Bool.and_eq_true_iff.1 h
    exact ⟨by simpa only [Bool.not_eq_true'] using hs, hu⟩
  · rintro tail rfl rfl
    simp [List.isPrefixOf] at k

theorem inLine_eq_false_of_closing {inLine : Bool} {rest : List Char}
    (h : Tracks .block inLine ('*' :: '/' :: rest)) : inLine = false := by
  cases inLine with
  | true =>
    have hc := h rfl
    simp [closesInLine, closes, List.isPrefixOf] at hc
  | false => rfl

theorem blankLines_closing (rest : List Char) :
    blankLines false ('*' :: '/' :: rest) = '*' :: '/' :: blankLines false rest := by
  rw [blankLines_false_cons rfl, blankLines_false_cons rfl]

theorem closes_blankLines {inLine : Bool} {text : List Char} (h : unmixed .block text)
    (ht : Tracks .block inLine text) (hc : closes text) : closes (blankLines inLine text) := by
  induction text generalizing inLine with
  | nil => simp [closes] at hc
  | cons c rest ih =>
    cases hp : ['*', '/'].isPrefixOf (c :: rest) with
    | true =>
      obtain ⟨tail, heq⟩ := isPrefixOf_closing_iff.1 hp
      rw [heq] at ht ⊢
      rw [inLine_eq_false_of_closing ht, blankLines_closing]
      rfl
    | false =>
      obtain ⟨hs, hu⟩ := unmixed_block_cons h hp
      obtain ⟨d, inLine', hd, _, ht'⟩ := exists_blankLines_block hs ht
      rw [closes_cons, hp, Bool.false_or] at hc
      rw [hd]
      exact closes_cons_of_closes (ih hu ht' hc)

theorem blankBlocks_false_cons {c : Char} {out : List Char}
    (h : startsBlock (c :: out) = false) :
    blankBlocks false (c :: out) = c :: blankBlocks false out := by
  by_cases ho : ∃ tail, c = '/' ∧ out = '*' :: tail
  · obtain ⟨tail, rfl, rfl⟩ := ho
    rw [blankBlocks, if_neg (by simpa [startsBlock] using h), blankBlocks]
    rintro _ ⟨⟩
  · rw [blankBlocks]
    intro tail hc hr
    exact ho ⟨tail, hc, hr⟩

theorem blankBlocks_true_cons {c : Char} {out : List Char}
    (h : ['*', '/'].isPrefixOf (c :: out) = false) :
    blankBlocks true (c :: out) = blank c :: blankBlocks true out := by
  rw [blankBlocks]
  rintro tail rfl rfl
  simp [List.isPrefixOf] at h

theorem startsBlock_cons_blankLines {c : Char} {rest : List Char}
    (h : startsBlock (c :: rest) = false) : startsBlock (c :: blankLines false rest) = false := by
  refine Bool.eq_false_iff.2 fun k => Bool.eq_false_iff.1 h ?_
  unfold startsBlock at k
  split at k
  · next tail heq =>
    obtain ⟨rfl, hr⟩ := List.cons.inj heq
    obtain ⟨rest', _, rfl, rfl⟩ := exists_of_blankLines_eq_cons hr (by decide) (by decide)
    exact closes_of_closes_blankLines k
  · cases k

section Blanked

variable {c : Char} {rest : List Char}

theorem blankBlocks_blankLines_cons (hl : startsLine (c :: rest) = false)
    (hb : startsBlock (c :: rest) = false) :
    blankBlocks false (blankLines false (c :: rest)) =
      c :: blankBlocks false (blankLines false rest) := by
  rw [blankLines_false_cons hl, blankBlocks_false_cons (startsBlock_cons_blankLines hb)]

theorem blankBlocks_blankLines_line (c : Char) (rest : List Char) :
    blankBlocks false (blankLines true (c :: rest)) =
      blank c :: blankBlocks false (blankLines (c ≠ '\n') rest) := by
  rw [blankLines_true_cons, blankBlocks_false_cons (startsBlock_blank_cons c _)]

theorem blankBlocks_blankLines_opening (h : closes (blankLines false rest)) :
    blankBlocks false (blankLines false ('/' :: '*' :: rest)) =
      ' ' :: ' ' :: blankBlocks true (blankLines false rest) := by
  rw [blankLines_false_cons rfl, blankLines_false_cons rfl, blankBlocks, if_pos h]

theorem blankBlocks_blankLines_unclosed (h : ¬ closes rest) :
    blankBlocks false (blankLines false ('/' :: '*' :: rest)) =
      '/' :: '*' :: blankBlocks false (blankLines false rest) := by
  have hopen : ¬ closes (blankLines false rest) := fun k => h (closes_of_closes_blankLines k)
  rw [blankLines_false_cons rfl, blankLines_false_cons rfl, blankBlocks, if_neg hopen]

theorem exists_blankBlocks_blankLines_block {inLine : Bool} (h : unmixed .block (c :: rest))
    (ht : Tracks .block inLine (c :: rest)) (hp : ['*', '/'].isPrefixOf (c :: rest) = false) :
    ∃ inLine', Tracks .block inLine' rest ∧
      blankBlocks true (blankLines inLine (c :: rest)) =
        blank c :: blankBlocks true (blankLines inLine' rest) := by
  obtain ⟨hs, _⟩ := unmixed_block_cons h hp
  obtain ⟨d, inLine', hd, hdc, ht'⟩ := exists_blankLines_block hs ht
  have hp' : ['*', '/'].isPrefixOf (d :: blankLines inLine' rest) = false :=
    Bool.eq_false_iff.2 fun k => Bool.eq_false_iff.1 hp (closing_of_closing_blankLines (hd ▸ k))
  have hblank : blank d = blank c := hdc.elim (congrArg blank) fun k => k ▸ blank_blank c
  exact ⟨inLine', ht', by rw [hd, blankBlocks_true_cons hp', hblank]⟩

end Blanked

def Region.isBlock (region : Region) : Bool :=
  region = .block

theorem blankBlocks_blankLines_eq_scan {region : Region} {inLine : Bool} {text : List Char}
    (h : unmixed region text) (ht : Tracks region inLine text) :
    blankBlocks region.isBlock (blankLines inLine text) = scan region text := by
  fun_induction scan region text generalizing inLine with
  | case1 region => cases inLine <;> cases hb : region.isBlock <;> rfl
  | case2 rest ih =>
    cases ht
    rw [← ih (by simpa [unmixed] using h) rfl]
    rfl
  | case3 rest hc ih =>
    cases ht
    have hu : unmixed .block rest := by simpa [unmixed, hc] using h
    have ht : Tracks .block false rest := nofun
    rw [← ih hu ht]
    exact blankBlocks_blankLines_opening (closes_blankLines hu ht hc)
  | case4 rest hc ih =>
    cases ht
    have hu : unmixed .code rest := by simpa [unmixed, hc] using h
    rw [← ih hu rfl]
    exact blankBlocks_blankLines_unclosed hc
  | case5 c rest hl hb ih =>
    cases ht
    rw [unmixed] at h
    · rw [← ih h (by split <;> rfl)]
      refine (blankBlocks_blankLines_cons (startsLine_eq_false_iff.2 hl)
        (startsBlock_eq_false_of hb)).trans ?_
      split <;> rfl
    · exact hl
    · exact hb
  | case6 mark c rest ih =>
    cases ht
    rw [unmixed, Bool.and_eq_true_iff, Bool.and_eq_true_iff, Bool.not_eq_true', Bool.not_eq_true']
      at h
    obtain ⟨⟨hl, hb⟩, hu⟩ := h
    rw [← ih hu (by split <;> rfl)]
    refine (blankBlocks_blankLines_cons hl hb).trans ?_
    split <;> rfl
  | case7 c rest ih =>
    cases ht
    have ht : Tracks (if c = '\n' then .code else .line) (c ≠ '\n') rest := by
      split
      · next hn => exact decide_eq_false (Decidable.not_not.2 hn)
      · next hn => exact decide_eq_true hn
    rw [← ih (by rwa [unmixed] at h) ht]
    refine (blankBlocks_blankLines_line c rest).trans ?_
    split <;> rfl
  | case8 rest ih =>
    obtain rfl := inLine_eq_false_of_closing ht
    rw [blankLines_closing, ← ih (by rwa [unmixed] at h) rfl]
    rfl
  | case9 c rest hc ih =>
    have hp := isPrefixOf_closing_cons_eq_false_of hc
    obtain ⟨inLine', ht', hblank⟩ := exists_blankBlocks_blankLines_block h ht hp
    rw [← ih (unmixed_block_cons h hp).2 ht']
    exact hblank

/-- Where no comment is mixed up with another or with a quotation, blanking the lines first and the
blocks afterwards blanks exactly the comments. -/
theorem strip_eq_scanned {sql : List Char} (h : unmixed .code (foldLineEnds sql)) :
    strip sql = scanned sql :=
  blankBlocks_blankLines_eq_scan h rfl

def rulerScript : List Char :=
  "/* first -----\n second */ CREATE TABLE t ( -- one /* key\r\n a text DEFAULT '-/*');".toList

theorem strip_rulerScript :
    unmixed .code (foldLineEnds rulerScript) ∧ strip rulerScript = scanned rulerScript := by
  have h : unmixed .code (foldLineEnds rulerScript) := by decide +kernel
  exact ⟨h, strip_eq_scanned h⟩

/-- Two hyphens in a block take its closing away, so that it counts as no comment, and what follows
in the line is lost. -/
theorem strip_ne_scanned_of_hyphensInBlock :
    strip "/* a -- b */ CREATE TABLE t (a int);".toList ≠
      scanned "/* a -- b */ CREATE TABLE t (a int);".toList := by
  decide +kernel

example : strip "a text DEFAULT '--'".toList = "a text DEFAULT '   ".toList := by decide +kernel

end SchemaText.Sql.Comment
