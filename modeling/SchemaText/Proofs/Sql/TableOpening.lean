import SchemaText.Proofs.Pattern.Spelled
import SchemaText.Proofs.Sql.CommentFree
import SchemaText.Sql.Statement
import SchemaText.Proofs.Text.Words
/-! What may stand in front of the body of a table: the keywords of a definition and a name. -/

namespace SchemaText.Sql.Statement

open Pattern
open Text (isBlank isWord sameLetter words)

def nameOpeners : List Char :=
  ['`', '"', '[']

def isHeadChar (c : Char) : Bool :=
  isBlank c || isWord c || c == '.'

def isScope (w : List Char) : Bool :=
  ["GLOBAL", "LOCAL", "TEMP", "TEMPORARY"].any fun letters => spells letters w

def defines : List (List Char) → Bool
  | [] => false
  | first :: others =>
    spells "CREATE" first &&
      match others.dropWhile isScope with
      | table :: _ :: _ => spells "TABLE" table
      | _ => false

/-- The text reads as the head of a definition of a table, up to the parenthesis of its body. -/
def opensTable (head : List Char) : Bool :=
  head.all isHeadChar && defines (words head)

def isParenthesis (c : Char) : Bool :=
  c == '(' || c == ')'

/-- Behind every parenthesis that opens the body of a table, the last one is a closing one. -/
def ClosesTables (text : List Char) : Prop :=
  ∀ place < text.length, text[place]? = some '(' →
    (∃ start < place, opensTable ((text.take place).drop start)) →
      ((text.drop (place + 1)).filter isParenthesis).getLast? = some ')'

instance (text : List Char) : Decidable (ClosesTables text) :=
  inferInstanceAs (Decidable (∀ place < text.length, _))

def tableOpening : Pattern :=
  wordEdge ++ (word "CREATE" ++ (blanks ++
    (optional (optional (word "GLOBAL" ++ blanks <|> word "LOCAL" ++ blanks) ++
      (word "TEMP" ++ (optional (word "ORARY") ++ blanks))) ++
        (word "TABLE" ++ (blanks ++ (ifNotExists ++ (gap ++
          (group "table" Identifier.qualifiedName ++ gap))))))))

section HoldsOff

variable {mark : Char}

theorem holdsOff_keyword {letters : String} (hk : isKeyword letters)
    (h : isHeadChar mark = false) : HoldsOff mark nameOpeners (word letters) := by
  refine holdsOff_word (List.all_eq_true.2 fun letter hl => ?_)
  have hplain := List.all_eq_true.1 (all_isPlain_of_isKeyword hk) letter hl
  rw [Bool.not_eq_true']
  refine Bool.eq_false_iff.2 fun hs => ?_
  simp [isHeadChar, Text.isWord_of_sameLetter hplain hs] at h

theorem holdsOff_gap (h : isHeadChar mark = false) : HoldsOff mark nameOpeners gap :=
  holdsOff_most (by simp_all [isHeadChar])

theorem holdsOff_blanks (h : isHeadChar mark = false) : HoldsOff mark nameOpeners blanks :=
  holdsOff_oneOrMore (by simp_all [isHeadChar])

theorem holdsOff_enclosed {opening closing : Char} (h : opening ∈ nameOpeners)
    (k : mark ∉ nameOpeners) : HoldsOff mark nameOpeners (Identifier.enclosed opening closing) := by
  have hopener : HoldsOff mark nameOpeners
      (char opening ++ (oneOrMore (· ≠ closing) ++ char closing)) :=
    holdsOff_opener h fun he => k (he ▸ h)
  rintro s t ⟨u, ⟨v, hv, hu⟩, ht⟩
  exact hopener ⟨v, hv, u, hu, ht⟩

theorem holdsOff_name (h : isHeadChar mark = false) (k : mark ∉ nameOpeners) :
    HoldsOff mark nameOpeners Identifier.name := by
  refine HoldsOff.orElse ?_ (holdsOff_oneOrMore (by simp_all [isHeadChar]))
  exact (holdsOff_enclosed (by decide) k).orElse
    ((holdsOff_enclosed (by decide) k).orElse (holdsOff_enclosed (by decide) k))

theorem holdsOff_qualifiedName (h : isHeadChar mark = false) (k : mark ∉ nameOpeners) :
    HoldsOff mark nameOpeners Identifier.qualifiedName := by
  have hdot : HoldsOff mark nameOpeners (char '.') := holdsOff_one (by simp_all [isHeadChar])
  exact (holdsOff_name h k).append
    ((((holdsOff_gap h).append hdot).append (holdsOff_gap h)).append (holdsOff_name h k)).repeated

theorem holdsOff_tableOpening (h : isHeadChar mark = false) (k : mark ∉ nameOpeners) :
    HoldsOff mark nameOpeners tableOpening := by
  have hword {letters : String} (hk : isKeyword letters) :
      HoldsOff mark nameOpeners (word letters) := holdsOff_keyword hk h
  have hblanks := holdsOff_blanks h
  have hgap := holdsOff_gap h
  have hscope := ((@hword "GLOBAL" (by decide)).append hblanks).orElse
    ((@hword "LOCAL" (by decide)).append hblanks)
  have htemporary := hscope.optional.append ((@hword "TEMP" (by decide)).append
    ((@hword "ORARY" (by decide)).optional.append hblanks))
  have hnot := ((@hword "NOT" (by decide)).append hblanks).append (@hword "EXISTS" (by decide))
  have hexists : HoldsOff mark nameOpeners ifNotExists :=
    ((((@hword "IF" (by decide)).append hblanks).append hnot).append hblanks).optional
  have htable := (@hword "TABLE" (by decide)).append (hblanks.append (hexists.append
    (hgap.append (((holdsOff_qualifiedName h k).group "table").append hgap))))
  exact holdsOff_wordEdge.append ((@hword "CREATE" (by decide)).append
    (hblanks.append (htemporary.optional.append htable)))

theorem all_isHeadChar_of_tableOpening {s t : Spot} {taken : List Char}
    (h : tableOpening.Meets s t) (hs : s.Spans taken t) (hn : ∀ c ∈ taken, c ∉ nameOpeners) :
    taken.all isHeadChar := by
  refine List.all_eq_true.2 fun c hc => Decidable.byContradiction fun hh => ?_
  obtain ⟨front, back, rfl⟩ := List.append_of_mem hc
  obtain ⟨d, hd, ho⟩ := holdsOff_tableOpening (by simpa using hh) (hn c hc) h hs
  exact hn d (List.mem_append_left _ hd) ho

end HoldsOff

section Words

variable {s t u : Spot} {letters : String} {w space more : List Char}

theorem words_append_of_blank (h : ∀ c ∈ space, isBlank c) (more : List Char) :
    words (space ++ more) = words more := by
  induction space with
  | nil => rfl
  | cons c space ih =>
    obtain ⟨hc, hs⟩ := List.forall_mem_cons.1 h
    rw [List.cons_append, Text.words_cons_of_isBlank hc, ih hs]

theorem words_spaced (hne : w ≠ []) (hw : ∀ c ∈ w, isBlank c = false) (hs : space ≠ [])
    (hb : ∀ c ∈ space, isBlank c) (more : List Char) :
    words (w ++ (space ++ more)) = w :: words more := by
  induction w with
  | nil => exact absurd rfl hne
  | cons c w ih =>
    obtain ⟨hc, hw⟩ := List.forall_mem_cons.1 hw
    cases w with
    | nil =>
      have hparts : Text.Parts (space ++ more) := by
        obtain ⟨d, space, rfl⟩ := List.exists_cons_of_ne_nil hs
        exact Text.stops_cons.2 (by rw [hb d List.mem_cons_self]; rfl)
      rw [List.singleton_append, Text.words_cons_of_parts hc hparts, words_append_of_blank hb]
    | cons d w =>
      have hd : isBlank d = false := hw d List.mem_cons_self
      rw [List.cons_append, List.cons_append, Text.words_cons_cons hc hd, ← List.cons_append,
        ih (List.cons_ne_nil d w) hw]
      rfl

def SpansWords (s : Spot) (ws : List (List Char)) (t : Spot) : Prop :=
  ∃ taken, s.Spans taken t ∧ ∀ more, words (taken ++ more) = ws ++ words more

theorem SpansWords.append {xs ys : List (List Char)} (h : SpansWords s xs t)
    (k : SpansWords t ys u) : SpansWords s (xs ++ ys) u := by
  obtain ⟨front, hf, hx⟩ := h
  obtain ⟨back, hb, hy⟩ := k
  refine ⟨front ++ back, hf.trans hb, fun more => ?_⟩
  rw [List.append_assoc, hx, hy, List.append_assoc]

theorem spansWords_spelled (hk : isKeyword letters) (hw : spells letters w) (h : s.Spans w u)
    (k : blanks.Meets u t) : SpansWords s [w] t := by
  obtain ⟨space, hs, hne, hb⟩ := oneOrMore_meets k
  have hfirm : ∀ c ∈ w, isBlank c = false := fun c hc =>
    Text.isBlank_eq_false_of_isWord (isWord_of_spells hk hw c hc)
  refine ⟨w ++ space, h.trans hs, fun more => ?_⟩
  rw [List.append_assoc, words_spaced (ne_nil_of_spells hk hw) hfirm hne hb]
  rfl

theorem exists_spansWords_keyword (hk : isKeyword letters) (h : (word letters).Meets s u)
    (k : blanks.Meets u t) : ∃ w, spells letters w ∧ SpansWords s [w] t := by
  obtain ⟨w, hs, hw⟩ := spells_of_meets h
  exact ⟨w, hw, spansWords_spelled hk hw hs k⟩

theorem isScope_of_spells (h : spells letters w)
    (k : letters ∈ ["GLOBAL", "LOCAL", "TEMP", "TEMPORARY"]) : isScope w :=
  List.any_eq_true.2 ⟨letters, k, h⟩

theorem exists_spansWords_scope
    (h : (optional (optional (word "GLOBAL" ++ blanks <|> word "LOCAL" ++ blanks) ++
      (word "TEMP" ++ (optional (word "ORARY") ++ blanks)))).Meets s t) :
    ∃ ws : List (List Char), (∀ w ∈ ws, isScope w) ∧ SpansWords s ws t := by
  have hnone (s : Spot) : SpansWords s [] s := ⟨[], .refl s, fun _ => rfl⟩
  rcases h with ⟨u, hu, v, hv, x, hx, hblanks⟩ | rfl
  · have hplace : ∃ ws : List (List Char), (∀ w ∈ ws, isScope w) ∧ SpansWords s ws u := by
      rcases hu with (⟨y, hy, hb⟩ | ⟨y, hy, hb⟩) | rfl
      · obtain ⟨w, hw, hs⟩ := exists_spansWords_keyword (by decide) hy hb
        exact ⟨[w], by simpa using isScope_of_spells hw (by decide), hs⟩
      · obtain ⟨w, hw, hs⟩ := exists_spansWords_keyword (by decide) hy hb
        exact ⟨[w], by simpa using isScope_of_spells hw (by decide), hs⟩
      · exact ⟨[], by simp, hnone u⟩
    have htime : ∃ w, isScope w ∧ SpansWords u [w] t := by
      obtain ⟨front, hf, hs⟩ := spells_of_meets hv
      rcases hx with hx | rfl
      · obtain ⟨back, hb, hk⟩ := spells_of_meets hx
        have hw : spells "TEMPORARY" (front ++ back) :=
          (spells_append_iff "TEMP" "ORARY" (by decide)).2 ⟨front, back, rfl, hs, hk⟩
        exact ⟨front ++ back, isScope_of_spells hw (by decide),
          spansWords_spelled (by decide) hw (hf.trans hb) hblanks⟩
      · exact ⟨front, isScope_of_spells hs (by decide),
          spansWords_spelled (by decide) hs hf hblanks⟩
    obtain ⟨ws, hws, hs⟩ := hplace
    obtain ⟨w, hw, ht⟩ := htime
    exact ⟨ws ++ [w], by simpa [or_imp, forall_and] using ⟨hws, hw⟩, hs.append ht⟩
  · exact ⟨[], by simp, hnone _⟩

theorem needs_name : Needs (fun c => !isBlank c) Identifier.name := by
  have hmark {opening closing : Char} (h : isBlank opening = false) :
      Needs (fun c => !isBlank c) (Identifier.enclosed opening closing) := by
    have hopening : Needs (fun c => c == opening) (Identifier.enclosed opening closing) :=
      (needs_one.append_left _).append_left _
    refine hopening.mono fun c hc => ?_
    rw [beq_iff_eq.1 hc, h]
    rfl
  have hword : Needs isWord (oneOrMore isWord) := needs_one.append_left _
  refine Needs.orElse ((hmark (by decide)).orElse ((hmark (by decide)).orElse
    (hmark (by decide)))) (hword.mono fun c hc => ?_)
  rw [Text.isBlank_eq_false_of_isWord hc]
  rfl

theorem needs_tableName : Needs (fun c => !isBlank c)
    (ifNotExists ++ (gap ++ (group "table" Identifier.qualifiedName ++ gap))) := by
  have hgroup : Needs (fun c => !isBlank c) (group "table" Identifier.qualifiedName) := by
    rintro s t taken ⟨u, hu, rfl⟩ hs
    exact needs_name.append_left _ hu ⟨hs.rest, hs.offset, hs.before⟩
  exact ((hgroup.append_left _).append_right _).append_right _

theorem defines_of_scope {create table name : List Char} {ws names : List (List Char)}
    (hc : spells "CREATE" create) (hs : ∀ w ∈ ws, isScope w) (ht : spells "TABLE" table) :
    defines (create :: (ws ++ table :: name :: names)) := by
  have hscope : isScope table = false := by
    have hother (letters : String) (h : letters.toList.map Text.foldLetter ≠
        "TABLE".toList.map Text.foldLetter) : spells letters table = false :=
      Bool.eq_false_iff.2 fun k => h ((spells_iff_map.1 k).trans (spells_iff_map.1 ht).symm)
    simp [isScope, hother "GLOBAL" (by decide), hother "LOCAL" (by decide),
      hother "TEMP" (by decide), hother "TEMPORARY" (by decide)]
  have hdrop : (ws ++ table :: name :: names).dropWhile isScope = table :: name :: names := by
    rw [List.dropWhile_append_of_pos hs, List.dropWhile_cons_of_neg (by rw [hscope]; decide)]
  simp [defines, hdrop, hc, ht]

theorem opensTable_of_tableOpening {taken : List Char} (h : tableOpening.Meets s t)
    (hs : s.Spans taken t) (hn : ∀ c ∈ taken, c ∉ nameOpeners) : opensTable taken := by
  have hall := all_isHeadChar_of_tableOpening h hs hn
  obtain ⟨_, ⟨_, rfl⟩, _, hv, _, hx, _, hy, _, hz, a, ha, hname⟩ := h
  obtain ⟨create, hcreate, hfirst⟩ := exists_spansWords_keyword (by decide) hv hx
  obtain ⟨ws, hws, hscope⟩ := exists_spansWords_scope hy
  obtain ⟨table, htable, hlast⟩ := exists_spansWords_keyword (by decide) hz ha
  -- The keywords are the first words that were taken; what is left of them holds the name.
  obtain ⟨front, hf, hwords⟩ := (hfirst.append hscope).append hlast
  obtain ⟨back, hb⟩ := Meets.exists_spans (p := ifNotExists ++ (gap ++
    (group "table" Identifier.qualifiedName ++ gap))) hname
  obtain rfl : taken = front ++ back := hs.eq (hf.trans hb)
  obtain ⟨c, hc, hblank⟩ := List.any_eq_true.1 (needs_tableName hname hb)
  obtain ⟨name, hn, _⟩ := Text.exists_mem_words hc (by simpa using hblank)
  obtain ⟨first, names, hnames⟩ := List.exists_cons_of_ne_nil (List.ne_nil_of_mem hn)
  have hdefines := @defines_of_scope create table first ws names hcreate hws htable
  unfold opensTable
  rw [hall, hwords, hnames]
  simpa using hdefines

end Words

section LineEnds

variable {xs ys : List Char}

def KeepsBlank (c d : Char) : Prop :=
  d = c ∨ isBlank c ∧ isBlank d

theorem keepsBlank_foldLineEnds (text : List Char) :
    List.Forall₂ KeepsBlank text (Comment.foldLineEnds text) := by
  fun_induction Comment.foldLineEnds text with
  | case1 => exact .nil
  | case2 rest ih => exact .cons (.inr ⟨by decide, by decide⟩) (.cons (.inl rfl) ih)
  | case3 c rest _ ih => exact .cons (.inl rfl) ih

theorem words_eq_of_keepsBlank (h : List.Forall₂ KeepsBlank xs ys) :
    words xs = words ys ∧ (Text.Parts xs ↔ Text.Parts ys) := by
  induction h with
  | nil => exact ⟨rfl, .rfl⟩
  | @cons c d xs ys hc _ ih =>
    rcases hc with rfl | ⟨hc, hd⟩
    · exact ⟨Text.words_cons_congr d ih.1 ih.2, by simp [Text.Parts]⟩
    · rw [Text.words_cons_of_isBlank hc, Text.words_cons_of_isBlank hd]
      exact ⟨ih.1, by simp [Text.Parts, hc, hd]⟩

theorem opensTable_eq_of_keepsBlank (h : List.Forall₂ KeepsBlank xs ys) :
    opensTable xs = opensTable ys := by
  have hall : xs.all isHeadChar = ys.all isHeadChar := by
    induction h with
    | nil => rfl
    | cons hc _ ih =>
      rcases hc with rfl | ⟨hc, hd⟩
      · rw [List.all_cons, List.all_cons, ih]
      · simp [isHeadChar, hc, hd, ih]
  rw [opensTable, opensTable, hall, (words_eq_of_keepsBlank h).1]

theorem filter_isParenthesis_of_keepsBlank (h : List.Forall₂ KeepsBlank xs ys) :
    xs.filter isParenthesis = ys.filter isParenthesis := by
  have hblank {c : Char} (hc : isBlank c) : isParenthesis c = false := by
    refine Bool.eq_false_iff.2 fun hp => ?_
    have hp : c = '(' ∨ c = ')' := by simpa [isParenthesis] using hp
    rcases hp with rfl | rfl <;> exact absurd hc (by decide)
  induction h with
  | nil => rfl
  | cons hc _ ih =>
    rcases hc with rfl | ⟨hc, hd⟩
    · rw [List.filter_cons, List.filter_cons, ih]
    · simp [hblank hc, hblank hd, ih]

theorem ClosesTables.of_keepsBlank (h : ClosesTables xs) (k : List.Forall₂ KeepsBlank xs ys) :
    ClosesTables ys := by
  intro place hp hopening ⟨start, hs, hopens⟩
  have hlen := k.length_eq
  have hchar : xs[place]? = some '(' := by
    rw [List.getElem?_eq_getElem hp] at hopening
    have hc := (List.forall₂_iff_get.1 k).2 place (hlen ▸ hp) hp
    rcases hc with hc | ⟨_, hblank⟩
    · rw [List.getElem?_eq_getElem (hlen ▸ hp), ← hopening]
      exact congrArg some hc.symm
    · rw [List.get_eq_getElem, Option.some.inj hopening] at hblank
      exact absurd hblank (by decide)
  have hhead := opensTable_eq_of_keepsBlank (List.forall₂_drop start (List.forall₂_take place k))
  have hlast := h place (hlen ▸ hp) hchar ⟨start, hs, hhead ▸ hopens⟩
  rwa [filter_isParenthesis_of_keepsBlank (List.forall₂_drop (place + 1) k)] at hlast

theorem ClosesTables.foldLineEnds (h : ClosesTables xs) :
    ClosesTables (Comment.foldLineEnds xs) :=
  h.of_keepsBlank (keepsBlank_foldLineEnds xs)

end LineEnds

end SchemaText.Sql.Statement
