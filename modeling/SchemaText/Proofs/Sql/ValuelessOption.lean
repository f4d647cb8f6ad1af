import SchemaText.Proofs.Sql.Attribute
/-! Column clauses without a clause for a default value: where a default is read from them all the
same, and when the column numbers its rows by itself. -/

namespace SchemaText.Sql.ColumnClause

open Pattern
open Sql.ColumnClause.Frame (found)
open Sql.Core (textsOf text_eq Flag)
open Text (Stops stops_nil stops_cons isBlank isWord)

/-- What a change of the other table's row is answered by. -/
inductive KeyAction where
  | cascade
  | setNull
  | setDefault
  deriving DecidableEq

inductive KeyEvent where
  | delete
  | update
  deriving DecidableEq

def KeyAction.keywords : KeyAction → List String
  | cascade => ["CASCADE"]
  | setNull => ["SET", "NULL"]
  | setDefault => ["SET", "DEFAULT"]

def KeyEvent.keyword : KeyEvent → String
  | delete => "DELETE"
  | update => "UPDATE"

/-- An option that is not a clause for a default value. -/
inductive ValuelessOption where
  | flag (flag : Flag)
  | reference (table column : BareName) (actions : List (KeyEvent × KeyAction))
  | identity (byDefault : Bool)
  deriving DecidableEq

namespace ValuelessOption

def keywords : ValuelessOption → List String
  | flag f => f.keywords
  | reference _ _ actions => actions.flatMap fun a => "ON" :: a.1.keyword :: a.2.keywords
  | identity true => ["GENERATED", "BY", "DEFAULT", "AS", "IDENTITY"]
  | identity false => ["GENERATED", "ALWAYS", "AS", "IDENTITY"]

def tokens (option : ValuelessOption) : List Token :=
  match option with
  | reference table column _ =>
    .keyword "REFERENCES" :: .target table column :: option.keywords.map .keyword
  | _ => option.keywords.map .keyword

/-- The names in the option. -/
def names : ValuelessOption → List BareName
  | reference table column _ => [table, column]
  | _ => []

end ValuelessOption

section Tokens

variable {token : Token} {options : List ValuelessOption} {letters : String}

def valuelessKeywords : List String :=
  ["NOT", "NULL", "UNIQUE", "PRIMARY", "KEY", "REFERENCES", "ON", "DELETE", "UPDATE", "CASCADE",
    "SET", "DEFAULT", "GENERATED", "ALWAYS", "BY", "AS", "IDENTITY"]

theorem mem_valuelessKeywords (option : ValuelessOption) :
    ∀ letters ∈ "REFERENCES" :: option.keywords, letters ∈ valuelessKeywords ∧
      (letters = "GENERATED" → ∃ byDefault, option = .identity byDefault) := by
  cases option with
  | flag f => cases f <;> decide
  | identity byDefault =>
    intro letters hl
    refine ⟨?_, fun _ => ⟨byDefault, rfl⟩⟩
    revert letters
    cases byDefault <;> decide
  | reference table column actions =>
    refine List.forall_mem_cons.2
      ⟨⟨by decide, fun he => absurd he (by decide)⟩, fun letters hl => ?_⟩
    obtain ⟨⟨event, action⟩, _, hl⟩ := List.mem_flatMap.1 hl
    have hall : ("ON" :: event.keyword :: action.keywords).all fun own =>
        valuelessKeywords.contains own && own != "GENERATED" := by
      cases event <;> cases action <;> decide
    have hown := List.all_eq_true.1 hall letters hl
    simp only [Bool.and_eq_true, List.contains_iff_mem, bne_iff_ne] at hown
    exact ⟨hown.1, fun he => absurd he hown.2⟩

theorem exists_of_mem_tokens (h : token ∈ options.flatMap ValuelessOption.tokens) :
    ∃ option ∈ options,
      (∃ letters ∈ "REFERENCES" :: option.keywords, token = .keyword letters) ∨
        ∃ table column, option.names = [table, column] ∧ token = .target table column := by
  obtain ⟨option, ho, ht⟩ := List.mem_flatMap.1 h
  refine ⟨option, ho, ?_⟩
  have hkeyword (k : token ∈ option.keywords.map Token.keyword) :
      ∃ letters ∈ "REFERENCES" :: option.keywords, token = .keyword letters := by
    obtain ⟨letters, hl, rfl⟩ := List.mem_map.1 k
    exact ⟨letters, List.mem_cons_of_mem _ hl, rfl⟩
  cases option with
  | flag | identity => exact .inl (hkeyword ht)
  | reference table column actions =>
    rcases List.mem_cons.1 ht with rfl | ht
    · exact .inl ⟨_, List.mem_cons_self, rfl⟩
    rcases List.mem_cons.1 ht with rfl | ht
    · exact .inr ⟨table, column, rfl, rfl⟩
    · exact .inl (hkeyword ht)

end Tokens

section Defaults

variable {p q : Pattern} {letters : String} {token : Token} {tokens : List Token} {tail : List Char}

def Token.IsOther (letters : String) : Token → Prop
  | keyword own => isKeyword own ∧ spells letters own.toList = false
  | value _ => False
  | target table column =>
    spells letters table.chars = false ∧ spells letters column.chars = false

theorem spells_congr {xs ys : List Char} (h : xs.map Text.foldLetter = ys.map Text.foldLetter) :
    spells letters xs = spells letters ys := by
  rw [Bool.eq_iff_iff, spells_iff_map, spells_iff_map, h]

def MuteName (p : Pattern) (name : BareName) : Prop :=
  ∀ gap c rest, (∀ d ∈ gap, isBlank d) → isWord c = false → isBlank c = false →
    p.Silent name.chars (gap ++ c :: rest)

theorem mute_target {openings : List String} {table column : BareName} (hp : LedBy openings p)
    (ht : MuteName p table) (hc : MuteName p column) : Mute p (.target table column) := by
  intro chars rest hw _
  cases hw with
  | target _ _ ho hb ha =>
    next outside before behind =>
    have htable : p.Silent table.chars
        (outside ++ '(' :: (before ++ (column.chars ++ (behind ++ [')']))) ++ rest) := by
      rw [List.append_assoc]
      exact ht _ _ _ ho (by decide) (by decide)
    have hcolumn : p.Silent column.chars (behind ++ [')'] ++ rest) := by
      rw [List.append_assoc]
      exact hc _ _ _ ha (by decide) (by decide)
    have hmark {c : Char} (hw : isWord c = false) (rest : List Char) : p.Silent [c] rest :=
      hp.silent_of_not_isWord (List.forall_mem_singleton.2 hw) rest
    have hopen (rest : List Char) : p.Silent ['('] rest := hmark (by decide) rest
    have hclose : p.Silent [')'] rest := hmark (by decide) rest
    have hinner := (LedBy.silent_gap hp hb _).append
      (hcolumn.append ((LedBy.silent_gap hp ha _).append hclose))
    exact htable.append ((LedBy.silent_gap hp ho _).append ((hopen _).append hinner))

theorem mute_of_isOther (hk : isKeyword letters) (h : token.IsOther letters) :
    Mute (keyed letters q) token := by
  have hl := all_isPlain_of_isKeyword hk
  have hname (name : BareName) (hn : spells letters name.chars = false) :
      MuteName (keyed letters q) name := by
    intro gap c rest hg hc _
    have hstops : Stops isWord (gap ++ c :: rest) :=
      stops_gap_append hg (fun _ => Text.isWord_eq_false_of_isBlank) hc rest
    refine silent_run hl name.word hstops fun hs => ?_
    rw [hn] at hs
    cases hs
  cases token with
  | keyword own =>
    intro chars rest hw hr
    cases hw with
    | keyword hspelled =>
      refine silent_run hl (isWord_of_spells h.1 hspelled) hr.stops_isWord fun hs => ?_
      rw [← spells_congr (spells_iff_map.1 hspelled), h.2] at hs
      cases hs
  | value => exact h.elim
  | target table column =>
    exact mute_target (ledBy_keyed hk q) (hname table h.1) (hname column h.2)

theorem found_eq_none_of_notMem (hk : isKeyword letters) (ha : p.Agrees (keyed letters q))
    (hw : Written tokens tail)
    (ho : ∀ token ∈ tokens, token = .keyword letters ∨ token.IsOther letters)
    (hn : .keyword letters ∉ tokens.dropLast) : found p tail = none := by
  have hl := all_isPlain_of_isKeyword hk
  have hled : LedBy [letters] p := ha.ledBy (ledBy_keyed hk q)
  have hmute (token : Token) (h : token.IsOther letters) : Mute p token :=
    fun chars rest hc hr => ha.silent (mute_of_isOther hk h chars rest hc hr)
  rcases tokens.eq_nil_or_concat with rfl | ⟨front, last, rfl⟩
  · exact found_eq_none hw hled (by simp)
  rw [List.concat_eq_append] at hw ho hn
  rw [List.dropLast_concat] at hn
  have hfront : ∀ token ∈ front, Mute p token := fun token ht =>
    hmute token ((ho token (List.mem_append_left _ ht)).resolve_left fun he => hn (he ▸ ht))
  rcases ho last (List.mem_append_right _ List.mem_cons_self) with rfl | hlast
  · obtain ⟨before, key, rest, rfl, hkey, hr, _, hsilent⟩ := hw.exists_front
    cases hr
    cases hkey with
    | keyword hspelled =>
      have hend : (blanks ++ q).FailsOn [] := ((failsOn_one (stops_nil _)).append _).append q
      have hsilent' : p.Silent key [] := ha.silent <|
        silent_run hl (isWord_of_spells hk hspelled) (stops_nil _) fun _ => hend
      rw [found_eq_textsFrom (hsilent hled hfront), hsilent'.textsFrom_eq rfl]
      exact textsFrom_of_nil rfl (hled.failsOn_of_stops (stops_nil _))
  · refine found_eq_none hw hled fun token ht => ?_
    rcases List.mem_append.1 ht with ht | ht
    · exact hfront token ht
    · exact List.mem_singleton.1 ht ▸ hmute last hlast

theorem takes_defaultValue {c : Char} (hc : isWord c) (rest : List Char) :
    ∃ taken after, c :: rest = taken ++ after ∧ Stops isBlank (taken ++ after) ∧
      defaultValue.Takes taken after [("token", taken)] := by
  have hblank := Text.isBlank_eq_false_of_isWord hc
  have hne {d : Char} (hd : isWord d = false) : c ≠ d := by
    rintro rfl
    rw [hc] at hd
    cases hd
  have haccepts : (decide (c ≠ ',') && !isBlank c) = true := by
    simp [hblank, hne (d := ',') (by decide)]
  let accepts : Char → Bool := fun c => c ≠ ',' && !isBlank c
  have hrun : c :: rest.takeWhile accepts ++ rest.dropWhile accepts = c :: rest := by
    rw [List.cons_append, List.takeWhile_append_dropWhile]
  refine ⟨c :: rest.takeWhile accepts, rest.dropWhile accepts, hrun.symm, ?_, ?_⟩
  · rw [hrun]
    exact stops_cons.2 hblank
  · have hall : ∀ d ∈ c :: rest.takeWhile accepts, accepts d :=
      List.forall_mem_cons.2 ⟨haccepts, fun d hd => List.mem_takeWhile_imp hd⟩
    have htoken := takes_oneOrMore (List.cons_ne_nil _ _) hall (Text.stops_dropWhile accepts rest)
    have hliteral :
        Literal.pattern.FailsOn (c :: rest.takeWhile accepts ++ rest.dropWhile accepts) :=
      ((failsOn_char (hne (by decide)) _).append _).append _
    exact hliteral.orElse_takes (htoken.group "token")

end Defaults

section Searches

variable {options : List ValuelessOption} {tail : List Char}

theorem Token.Writes.exists_cons {token : Token} {chars : List Char} (h : token.Writes chars)
    (ht : token ∈ options.flatMap ValuelessOption.tokens) :
    ∃ c rest, chars = c :: rest ∧ isWord c := by
  have hkeywords : valuelessKeywords.all isKeyword := by decide
  obtain ⟨option, _, ⟨letters, hl, rfl⟩ | ⟨table, column, _, rfl⟩⟩ := exists_of_mem_tokens ht
  · cases h with
    | keyword hspelled =>
      have hk := List.all_eq_true.1 hkeywords letters (mem_valuelessKeywords option letters hl).1
      obtain ⟨c, chars, rfl⟩ := List.exists_cons_of_ne_nil (ne_nil_of_spells hk hspelled)
      exact ⟨c, chars, rfl, isWord_of_spells hk hspelled c List.mem_cons_self⟩
  · cases h with
    | target =>
      obtain ⟨c, chars, hc⟩ := List.exists_cons_of_ne_nil table.ne_nil
      exact ⟨c, _, by rw [hc, List.cons_append],
        table.word c (by rw [hc]; exact List.mem_cons_self)⟩

theorem isOther_of_mem_tokens {token : Token}
    (hn : ∀ option ∈ options, ∀ name ∈ option.names, spells "DEFAULT" name.chars = false)
    (ht : token ∈ options.flatMap ValuelessOption.tokens) :
    token = .keyword "DEFAULT" ∨ token.IsOther "DEFAULT" := by
  have hall : valuelessKeywords.all fun own =>
      own == "DEFAULT" || isKeyword own && !spells "DEFAULT" own.toList := by
    decide
  obtain ⟨option, ho, ⟨own, hl, rfl⟩ | ⟨table, column, hnames, rfl⟩⟩ := exists_of_mem_tokens ht
  · have hown := List.all_eq_true.1 hall own (mem_valuelessKeywords option own hl).1
    simp only [Bool.or_eq_true, beq_iff_eq, Bool.and_eq_true, Bool.not_eq_true'] at hown
    exact hown.imp_left (congrArg Token.keyword)
  · exact .inr ⟨hn option ho table (by simp [hnames]), hn option ho column (by simp [hnames])⟩

theorem defaultOf_eq_none_iff
    (hn : ∀ option ∈ options, ∀ name ∈ option.names, spells "DEFAULT" name.chars = false)
    (hw : Written (options.flatMap ValuelessOption.tokens) tail) :
    defaultOf tail = none ↔
      .keyword "DEFAULT" ∉ (options.flatMap ValuelessOption.tokens).dropLast := by
  have hk : isKeyword "DEFAULT" := by decide
  rw [defaultOf_eq, Option.map_eq_none_iff]
  generalize htokens : options.flatMap ValuelessOption.tokens = tokens at hw
  have hother : ∀ token ∈ tokens, token = .keyword "DEFAULT" ∨ token.IsOther "DEFAULT" :=
    fun token ht => isOther_of_mem_tokens hn (htokens ▸ ht)
  refine ⟨fun hnone hm => ?_, found_eq_none_of_notMem hk agrees_default hw hother⟩
  obtain ⟨xs, ys, he, hxs⟩ := List.eq_append_cons_of_mem (List.dropLast_subset tokens hm)
  cases ys with
  | nil =>
    rw [he, List.dropLast_concat] at hm
    exact hxs hm
  | cons value ys =>
    have hmute : ∀ token ∈ xs, Mute default token := by
      intro token ht chars rest hc hr
      have hin : token ∈ tokens := by
        rw [he]
        exact List.mem_append_left _ ht
      have hi := (hother token hin).resolve_left fun h => hxs (h ▸ ht)
      exact agrees_default.silent (mute_of_isOther hk hi chars rest hc hr)
    rw [he] at hw
    obtain ⟨chars, rest, hv, _, hfound⟩ := found_keyed hw hk agrees_default hmute
    obtain ⟨c, more, rfl, hc⟩ :=
      @Token.Writes.exists_cons options _ _ hv (by rw [htokens, he]; simp)
    obtain ⟨taken, after, hsplit, hstops, htakes⟩ :=
      takes_defaultValue hc (more ++ rest)
    rw [hfound taken after _ hsplit hstops htakes] at hnone
    cases hnone

end Searches

section Counters

variable {p q : Pattern} {letters : String} {xs rest : List Char}

def identityRule : Pattern :=
  word "GENERATED" ++ (blanks ++ ((word "ALWAYS" <|> phrase ["BY", "DEFAULT"]) ++
    (blanks ++ phrase ["AS", "IDENTITY"])))

theorem agrees_autoIncrement : autoIncrement.Agrees (counterRule <|> identityRule) :=
  fun _ _ _ => rfl

theorem ledBy_counterRule : LedBy counterWords counterRule := by
  refine ⟨by decide, fun s hs => fails_of_forall_not_meets ?_⟩
  have hno (letters : String) (hl : letters ∈ counterWords) (taken rest : List Char)
      (h : spells letters taken) (hr : s.rest = taken ++ rest) : False := by
    obtain ⟨t, ht, _⟩ := takes_spelled h rest s hr
    have hsome := ht (fun _ => some ()) () rfl
    rw [hs letters hl] at hsome
    cases hsome
  rintro t ⟨u, ⟨v, hauto, hmark⟩, hincrement⟩
  obtain ⟨first, hfirst, hspelled⟩ := spells_of_meets hauto
  obtain ⟨last, hlast, hspelled'⟩ := spells_of_meets hincrement
  rcases hmark with ⟨c, rest, hr, hc, rfl⟩ | rfl
  · obtain rfl : c = '_' := beq_iff_eq.1 hc
    have hmark := (hfirst.trans (Spot.spans_after hr)).trans hlast
    refine hno "AUTO_INCREMENT" (by decide) _ _ ?_ hmark.rest
    refine (spells_append_iff "AUTO_" "INCREMENT" (by decide)).2 ⟨_, _, rfl, ?_, hspelled'⟩
    exact (spells_append_iff "AUTO" "_" (by decide)).2 ⟨_, _, rfl, hspelled, spells_self "_"⟩
  · refine hno "AUTOINCREMENT" (by decide) _ _ ?_ (hfirst.trans hlast).rest
    exact (spells_append_iff "AUTO" "INCREMENT" (by decide)).2 ⟨_, _, rfl, hspelled, hspelled'⟩

theorem muteName_of_ledBy {openings : List String} (hk : isKeyword letters) (hq : LedBy openings q)
    (name : BareName) : MuteName (word letters ++ (blanks ++ q)) name := by
  intro gap c rest hg hc hb s _ ys zs he hz
  have hstops : Stops isWord (gap ++ c :: rest) :=
    stops_gap_append hg (fun _ => Text.isWord_eq_false_of_isBlank) hc rest
  refine fails_append fun t ht => fails_append fun u hu => ?_
  obtain ⟨front, back, rfl, _, hrest⟩ :=
    word_meets ht rfl (all_isPlain_of_isKeyword hk) hstops
  obtain ⟨taken, hsp, hne, hall⟩ := oneOrMore_meets hu
  have hcut : back ++ (gap ++ c :: rest) = taken ++ u.rest := hrest.symm.trans hsp.rest
  cases back with
  | nil =>
    obtain ⟨gap', hu, hg'⟩ := exists_gap_of_append hg hall hb hcut
    refine hq.failsOn_of_stops ?_ u rfl
    rw [hu]
    exact stops_gap_append hg' (fun _ => Text.isWord_eq_false_of_isBlank) hc rest
  | cons d back =>
    obtain ⟨e, taken, rfl⟩ := List.exists_cons_of_ne_nil hne
    obtain ⟨rfl, _⟩ := List.cons.inj hcut
    have hblank := Text.isBlank_eq_false_of_isWord (name.word d (by simp [he]))
    rw [hall d List.mem_cons_self] at hblank
    cases hblank

theorem mute_autoIncrement {options : List ValuelessOption} {token : Token}
    (hi : ∀ byDefault, .identity byDefault ∉ options)
    (hn : ∀ option ∈ options, ∀ name ∈ option.names, ∀ letters ∈ counterWords,
      Pattern.holds letters name.chars = false)
    (ht : token ∈ options.flatMap ValuelessOption.tokens) : Mute autoIncrement token := by
  have hall : valuelessKeywords.all fun own => own == "GENERATED" ||
      !Pattern.holds "AUTO" own.toList && !Pattern.holds "GENERATED" own.toList := by
    decide
  obtain ⟨option, ho, ⟨own, hl, rfl⟩ | ⟨table, column, hnames, rfl⟩⟩ := exists_of_mem_tokens ht
  · obtain ⟨hin, hgenerated⟩ := mem_valuelessKeywords option own hl
    have hown : own ≠ "GENERATED" := by
      intro he
      obtain ⟨byDefault, rfl⟩ := hgenerated he
      exact hi byDefault ho
    have hholds := List.all_eq_true.1 hall own hin
    simp only [Bool.or_eq_true, beq_iff_eq, hown, false_or, Bool.and_eq_true,
      Bool.not_eq_true'] at hholds
    exact mute_of_holds ledBy_autoIncrement (by simpa [Token.holds] using hholds)
  · have hcounter : Mute counterRule (.target table column) :=
      mute_of_holds ledBy_counterRule fun letters hl => Bool.or_eq_false_iff.2
        ⟨hn option ho table (by simp [hnames]) letters hl,
          hn option ho column (by simp [hnames]) letters hl⟩
    have hrest : LedBy ["ALWAYS", "BY"] ((word "ALWAYS" <|> phrase ["BY", "DEFAULT"]) ++
        (blanks ++ phrase ["AS", "IDENTITY"])) :=
      ((ledBy_word (by decide)).orElse
        (((ledBy_word (by decide)).append _).append _)).append _
    have hname := muteName_of_ledBy (by decide : isKeyword "GENERATED") hrest
    have hidentity : Mute identityRule (.target table column) :=
      mute_target ((ledBy_word (by decide)).append _) (hname table) (hname column)
    exact fun chars rest hw hr => agrees_autoIncrement.silent
      ((hcounter chars rest hw hr).orElse (hidentity chars rest hw hr))

end Counters

section Identities

variable {options : List ValuelessOption} {tail type : List Char}

theorem exists_takes_identityEnd {ys : List Token} {text : List Char}
    (hb : Behind (.keyword "AS" :: .keyword "IDENTITY" :: ys) text) :
    ∃ taken rest, text = taken ++ rest ∧
      (blanks ++ phrase ["AS", "IDENTITY"]).Takes taken rest [] := by
  obtain ⟨gap, as, _, rfl, hgap, has, hb⟩ := hb.exists_keyword (by decide)
  obtain ⟨gap', identity, rest, rfl, hgap', hidentity, _⟩ := hb.exists_keyword (by decide)
  refine ⟨gap ++ (as ++ (gap' ++ identity)), rest, by simp only [List.append_assoc], ?_⟩
  have htakes := (takes_spelled has _).append (hgap'.append (takes_spelled hidentity rest))
  refine Takes.append ?_ htakes
  simpa only [List.append_assoc] using hgap

theorem exists_takes_autoIncrement {ys : List Token} {key kind text : List Char}
    (hkey : spells "GENERATED" key)
    (hkind : (blanks ++ (word "ALWAYS" <|> phrase ["BY", "DEFAULT"])).Takes kind text [])
    (hb : Behind (.keyword "AS" :: .keyword "IDENTITY" :: ys) text) :
    ∃ taken rest, key ++ (kind ++ text) = taken ++ rest ∧ autoIncrement.Takes taken rest [] := by
  obtain ⟨last, rest, rfl, hlast⟩ := exists_takes_identityEnd hb
  refine ⟨key ++ (kind ++ last), rest, by simp only [List.append_assoc], ?_⟩
  have htakes := (takes_spelled hkey _).append (hkind.append hlast)
  have hauto : (word "AUTO").FailsOn (key ++ (kind ++ last) ++ rest) := by
    rw [List.append_assoc]
    exact failsOn_spelled hkey (by decide) _
  exact ((hauto.append _).append _).orElse_takes htakes

theorem isSome_identity {xs ys : List Token} (byDefault : Bool)
    (h : Written (xs ++ ((ValuelessOption.identity byDefault).tokens ++ ys)) tail) :
    (autoIncrement.search tail).isSome := by
  cases byDefault with
  | false =>
    refine isSome_search_of_takes h fun key text hkey hb => ?_
    obtain ⟨gap, always, rest, rfl, hgap, halways, hb⟩ := hb.exists_keyword (by decide)
    have hkind := hgap.append ((takes_spelled halways rest).orElse (phrase ["BY", "DEFAULT"]))
    rw [← List.append_assoc gap]
    exact exists_takes_autoIncrement hkey hkind hb
  | true =>
    refine isSome_search_of_takes h fun key text hkey hb => ?_
    obtain ⟨gap, by', _, rfl, hgap, hby, hb⟩ := hb.exists_keyword (by decide)
    obtain ⟨gap', default, rest, rfl, hgap', hdefault, hb⟩ := hb.exists_keyword (by decide)
    have htakes := (takes_spelled hby _).append (hgap'.append (takes_spelled hdefault rest))
    have halways : (word "ALWAYS").FailsOn (by' ++ (gap' ++ default) ++ rest) := by
      rw [List.append_assoc]
      exact failsOn_spelled hby (by decide) _
    have hkind : (blanks ++ (word "ALWAYS" <|> phrase ["BY", "DEFAULT"])).Takes
        (gap ++ (by' ++ (gap' ++ default))) rest [] := by
      refine Takes.append ?_ (halways.orElse_takes htakes)
      simpa only [List.append_assoc] using hgap
    have htext : gap ++ (by' ++ (gap' ++ (default ++ rest))) =
        gap ++ (by' ++ (gap' ++ default)) ++ rest := by
      simp only [List.append_assoc]
    rw [htext]
    exact exists_takes_autoIncrement hkey hkind hb

theorem isSome_of_holds {letters : String} (hl : letters ∈ counterWords)
    (h : Pattern.holds letters tail) : (autoIncrement.search tail).isSome := by
  obtain ⟨front, key, rest, rfl, hspelled⟩ := exists_of_holds h
  exact ((takes_counterRule hl hspelled rest).orElse _).isSome_search front

theorem autoIncrement_iff (hw : Written (options.flatMap ValuelessOption.tokens) tail) :
    (autoIncrement.search tail).isSome ↔
      (∃ byDefault, .identity byDefault ∈ options) ∨
        ∃ option ∈ options, ∃ name ∈ option.names, ∃ letters ∈ counterWords,
          Pattern.holds letters name.chars := by
  constructor
  · intro hsome
    by_contra hnone
    rw [not_or] at hnone
    have hi (byDefault : Bool) : .identity byDefault ∉ options := fun h => hnone.1 ⟨byDefault, h⟩
    have hn : ∀ option ∈ options, ∀ name ∈ option.names, ∀ letters ∈ counterWords,
        Pattern.holds letters name.chars = false := fun option ho name hm letters hl =>
      Bool.eq_false_iff.2 fun h => hnone.2 ⟨option, ho, name, hm, letters, hl, h⟩
    rw [isSome_search, found_eq_none hw ledBy_autoIncrement fun token => mute_autoIncrement hi hn]
      at hsome
    cases hsome
  · rintro (⟨byDefault, hi⟩ | ⟨option, ho, name, hm, letters, hl, hholds⟩)
    · obtain ⟨before, after, rfl⟩ := List.append_of_mem hi
      rw [List.flatMap_append, List.flatMap_cons] at hw
      exact isSome_identity byDefault hw
    · obtain ⟨table, column, actions, rfl⟩ :
          ∃ table column actions, option = .reference table column actions := by
        cases option with
        | reference table column actions => exact ⟨table, column, actions, rfl⟩
        | flag | identity => cases hm
      have hin : .target table column ∈ options.flatMap ValuelessOption.tokens :=
        List.mem_flatMap.2 ⟨_, ho, List.mem_cons_of_mem _ List.mem_cons_self⟩
      obtain ⟨xs, ys, he⟩ := List.append_of_mem hin
      rw [he] at hw
      obtain ⟨front, chars, rest, rfl, hwrites, hr, _⟩ := hw.exists_front
      have hk : isKeyword letters := by
        have hall : counterWords.all isKeyword := by decide
        exact List.all_eq_true.1 hall letters hl
      have htarget : Pattern.holds letters chars := by
        rw [hwrites.holds_eq hk]
        rcases List.mem_pair.1 hm with rfl | rfl <;> simp [Token.holds, hholds]
      refine isSome_of_holds hl (holds_of_append ?_ front)
      rw [holds_append hk (.inr hr.apart.stops_isWord), htarget, Bool.true_or]

end Identities

section Columns

variable {options : List ValuelessOption} {clause : Clause} {type tail : List Char}

/-- From options without a clause for a default value, a default is read exactly where the keyword
of such a clause stands before another word, and a column numbers its rows by itself exactly if an
identity is generated, its type does so, or a name holds the word for it. -/
theorem readColumn_valueless (table : String)
    (h : (definition.matchStart clause.text).map (fun m => (m.text "type", m.text "tail")) =
      some (type, tail))
    (hw : Written (options.flatMap ValuelessOption.tokens) tail)
    (hn : ∀ option ∈ options, ∀ name ∈ option.names, spells "DEFAULT" name.chars = false) :
    ∃ column, (readColumn table clause).column = some column ∧
      (column.default = none ↔
        .keyword "DEFAULT" ∉ (options.flatMap ValuelessOption.tokens).dropLast) ∧
      (column.autoIncrement ↔ (∃ byDefault, .identity byDefault ∈ options) ∨ isSerial type ∨
        ∃ option ∈ options, ∃ name ∈ option.names, ∃ letters ∈ counterWords,
          Pattern.holds letters name.chars) := by
  obtain ⟨m, hm, he⟩ := Option.map_eq_some_iff.1 h
  obtain ⟨rfl, rfl⟩ := Prod.mk.inj he
  refine ⟨columnOf m, by rw [readColumn, hm], ?_, ?_⟩
  · rw [← defaultOf_eq_none_iff hn hw]
    exact Option.map_eq_none_iff
  · have hcolumn : (columnOf m).autoIncrement =
        ((autoIncrement.search (m.text "tail")).isSome || isSerial (m.text "type")) := rfl
    rw [hcolumn, Bool.or_eq_true, autoIncrement_iff hw, or_assoc]
    exact or_congr_right or_comm

def referringOptions : List ValuelessOption :=
  [.flag .unique, .identity false,
    .reference ⟨"users".toList, by decide, List.all_eq_true.1 (by decide)⟩
      ⟨"uid".toList, by decide, List.all_eq_true.1 (by decide)⟩ [(.delete, .setDefault)]]

def referringText : List Char :=
  " ".toList ++ ("Generated".toList ++ ("\n".toList ++ ("always".toList ++ (" ".toList ++
    ("AS".toList ++ (" ".toList ++ ("Identity".toList ++ ("  ".toList ++ ("references".toList ++
      ("\t".toList ++ ("users ( uid)".toList ++ (" ".toList ++ ("ON".toList ++ (" ".toList ++
        ("delete".toList ++ (" ".toList ++ ("SET".toList ++ (" ".toList ++
          ("default".toList ++ [])))))))))))))))))))

theorem written_referringText :
    Written (referringOptions.flatMap ValuelessOption.tokens)
      ("UNIQUE".toList ++ referringText) := by
  have hspace : ∀ c ∈ [' '], isBlank c := List.forall_mem_singleton.2 (by decide)
  refine ⟨_, _, rfl, .keyword (by decide), ?_⟩
  iterate 5 refine .cons (by decide) (List.all_eq_true.1 (by decide)) (.keyword (by decide)) ?_
  refine .cons (by decide) (List.all_eq_true.1 (by decide)) ?_ ?_
  · exact @Token.Writes.target _ _ [' '] [' '] [] hspace hspace (by simp)
  iterate 4 refine .cons (by decide) (List.all_eq_true.1 (by decide)) (.keyword (by decide)) ?_
  exact .nil

theorem readColumn_referringOptions :
    ∃ column, (readColumn "t" ⟨0, "a int ".toList ++ ("UNIQUE".toList ++ referringText)⟩).column =
        some column ∧
      (column.default = none ↔
        .keyword "DEFAULT" ∉ (referringOptions.flatMap ValuelessOption.tokens).dropLast) ∧
      (column.autoIncrement ↔ (∃ byDefault, .identity byDefault ∈ referringOptions) ∨
        isSerial "int".toList ∨
        ∃ option ∈ referringOptions, ∃ name ∈ option.names, ∃ letters ∈ counterWords,
          Pattern.holds letters name.chars) :=
  readColumn_valueless "t" (by decide +kernel) written_referringText (by decide)

/-- An identity that is generated by default is read as a default. -/
theorem default_of_identity :
    ((readColumn "t" ⟨0, "a int GENERATED BY DEFAULT AS IDENTITY".toList⟩).column.map
      (·.default)) = some (some "AS") := by
  decide +kernel

end Columns

end SchemaText.Sql.ColumnClause
