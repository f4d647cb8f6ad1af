import SchemaText.Proofs.Pattern.Contained
import SchemaText.Proofs.Sql.ScriptRead
import SchemaText.Proofs.Sql.TableOpening
/-! Texts in front of a definition that it survives: in them the body of no table is left open. -/

namespace SchemaText.Sql.Statement

open Pattern
open Text (Stops stops_nil stops_cons isBlank)

def tableBody : Pattern :=
  char '(' ++ (group "body" (fewest fun _ => true) ++ tableClosing)

theorem agrees_tableBody : createTable.Agrees (tableOpening ++ tableBody) := by
  intro β goOn s
  simp only [createTable, tableOpening, tableBody, tableClosing, spaced, tryAt_append,
    tryAt_optional]

section Body

variable {text rest : List Char}

theorem exists_closing {text : List Char}
    (h : (text.filter isParenthesis).getLast? = some ')') :
    ∃ xs ys, text = xs ++ ')' :: ys ∧ '(' ∉ ys ∧ ')' ∉ ys := by
  obtain ⟨others, ho⟩ := List.getLast?_eq_some_iff.1 h
  obtain ⟨front, back, rfl, _, hback⟩ := List.filter_eq_append_iff.1 ho
  obtain ⟨before, behind, rfl, _, _, hbehind⟩ := List.filter_eq_cons_iff.1 hback
  have hnone := List.filter_eq_nil_iff.1 hbehind
  exact ⟨front ++ before, behind, by simp, fun hc => hnone _ hc (by decide),
    fun hc => hnone _ hc (by decide)⟩

theorem ClosesTables.exists_closing {front head back : List Char} (h : ClosesTables text)
    (k : opensTable head) (hx : text = (front ++ head) ++ '(' :: back) :
    ∃ xs ys, back = xs ++ ')' :: ys ∧ '(' ∉ ys ∧ ')' ∉ ys := by
  subst hx
  have hne : head ≠ [] := by
    rintro rfl
    exact absurd k (by decide)
  have hstart : front.length < (front ++ head).length := by
    rw [List.length_append]
    exact Nat.lt_add_of_pos_right (List.length_pos_iff.2 hne)
  have hlast := h (front ++ head).length (by simp) (by simp)
    ⟨front.length, hstart, by rwa [List.take_left, List.drop_left]⟩
  have hback : ((front ++ head) ++ '(' :: back).drop ((front ++ head).length + 1) = back := by
    rw [← List.drop_drop, List.drop_left]
    rfl
  rw [hback] at hlast
  exact Statement.exists_closing hlast

theorem offset_of_tableClosing {s t : Spot} (h : tableClosing.Meets s t)
    (hs : s.rest = text ++ ';' :: rest) (hn : ';' ∉ text) :
    t.offset = s.offset + text.length + 1 := by
  obtain ⟨options, hspan, ho⟩ := Core.exists_options_of_tableClosing h
  have hrest : s.rest = (')' :: options) ++ ';' :: t.rest := by
    rw [hspan.rest]
    simp
  have hfree : ';' ∉ ')' :: options := fun hin => by
    rcases List.mem_cons.1 hin with hin | hin
    · cases hin
    · exact (ho _ hin).1 rfl
  have htext := Core.eq_of_append_semicolon (hs.symm.trans hrest) hn hfree
  rw [hspan.offset, htext]
  simp only [List.length_cons, List.length_append, List.length_nil]
  omega

theorem takes_tableClosing_options {options : List Char}
    (h : ∀ c ∈ options, c ≠ ';' ∧ c ≠ '(' ∧ c ≠ ')') (rest : List Char) :
    ∃ texts, tableClosing.Takes (')' :: (options ++ [';'])) rest texts := by
  have hblank : gap.Takes (options.takeWhile isBlank)
      (options.dropWhile isBlank ++ [';'] ++ rest) [] := by
    refine takes_most (List.all_eq_true.1 List.all_takeWhile) ?_
    cases hd : options.dropWhile isBlank with
    | nil => exact stops_cons.2 (by decide)
    | cons c cs =>
      have hc := List.head?_dropWhile_not isBlank options
      rw [hd] at hc
      exact stops_cons.2 (by simpa using hc)
  have hmost : (most fun c => c ≠ ';' && c ≠ '(' && c ≠ ')').Takes (options.dropWhile isBlank)
      ([';'] ++ rest) [] := by
    refine takes_most (fun c hc => ?_) (stops_cons.2 (by decide))
    simpa [and_assoc] using h c ((List.dropWhile_sublist _).subset hc)
  have hclose := (takes_char ')' _).append
    (hblank.append ((hmost.group "options").append (takes_char ';' rest)))
  have htext : [')'] ++ (options.takeWhile isBlank ++ (options.dropWhile isBlank ++ [';'])) =
      ')' :: (options ++ [';']) := by
    rw [← List.append_assoc (options.takeWhile isBlank), List.takeWhile_append_dropWhile]
    rfl
  exact ⟨_, htext ▸ hclose⟩

theorem exists_of_tableBody {β : Type} {goOn : Spot → Option β} (hgo : ∀ t, goOn t ≠ none)
    {s : Spot}
    (hs : s.rest = text ++ ';' :: rest) (hn : ';' ∉ text)
    (hb : ∀ back, text = '(' :: back → ∃ xs ys, back = xs ++ ')' :: ys ∧ '(' ∉ ys ∧ ')' ∉ ys)
    {b : β} (h : tableBody.tryAt goOn s = some b) :
    ∃ t, goOn t = some b ∧ t.offset = s.offset + text.length + 1 := by
  obtain ⟨u, ⟨c, tail, hc, hp, rfl⟩, hbody⟩ := exists_meets_of_tryAt (char '(') h
  obtain rfl : c = '(' := by simpa using hp
  have htext := hs.symm.trans hc
  cases text with
  | nil => cases htext
  | cons d text =>
    obtain ⟨rfl, rfl⟩ := List.cons.inj htext
    obtain ⟨xs, ys, rfl, hopen, hclose⟩ := hb text rfl
    have hoptions : ∀ c ∈ ys, c ≠ ';' ∧ c ≠ '(' ∧ c ≠ ')' := by
      intro c hc
      refine ⟨?_, fun he => hopen (he ▸ hc), fun he => hclose (he ▸ hc)⟩
      rintro rfl
      exact hn (by simp [hc])
    have hrest : xs ++ ')' :: ys ++ ';' :: rest = xs ++ (')' :: (ys ++ [';']) ++ rest) := by simp
    generalize hv : s.after '(' (xs ++ ')' :: ys ++ ';' :: rest) = v at hbody
    have hvr : v.rest = xs ++ (')' :: (ys ++ [';']) ++ rest) := by rw [← hv, ← hrest]; rfl
    -- Up to the last parenthesis the body has a way to end, so it ends there or before.
    have hlast : tableClosing.tryAt goOn
        ((v.past xs (')' :: (ys ++ [';']) ++ rest)).capture "body" v) ≠ none := by
      obtain ⟨texts, htakes⟩ := takes_tableClosing_options hoptions rest
      obtain ⟨t, ht, _⟩ :=
        htakes ((v.past xs (')' :: (ys ++ [';']) ++ rest)).capture "body" v) rfl
      obtain ⟨a, ha⟩ := Option.ne_none_iff_exists'.1 (hgo t)
      rw [ht goOn a ha]
      exact Option.some_ne_none a
    obtain ⟨front, back, rfl, hf⟩ := exists_of_findSome?_run hvr hlast hbody
    obtain ⟨t, ht, hgt⟩ := exists_meets_of_tryAt tableClosing hf
    refine ⟨t, hgt, ?_⟩
    have hsemi : ';' ∉ back ++ ')' :: ys := by
      intro hin
      exact hn (by
        rw [List.append_assoc]
        exact List.mem_cons_of_mem _ (List.mem_append_right _ hin))
    have hback : ((v.past front (back ++ (')' :: (ys ++ [';']) ++ rest))).capture "body" v).rest =
        (back ++ ')' :: ys) ++ ';' :: rest := by
      simp [Spot.past, Spot.capture]
    have hoff := offset_of_tableClosing ht hback hsemi
    rw [hoff, ← hv]
    simp only [Spot.past, Spot.capture, Spot.after, List.length_append, List.length_cons]
    omega

/-- What may stand in front of a definition, up to a semicolon of its own. -/
structure Closed (text : List Char) : Prop where
  unquoted : ∀ c ∈ text, c ≠ ';' ∧ c ∉ nameOpeners
  closes : ClosesTables text

theorem contained_createTable (h : Closed text) (rest : List Char) :
    createTable.Contained (text ++ [';']) rest := by
  intro s hs ys zs he hz m hm
  obtain ⟨zs, rfl⟩ : ∃ front, zs = front ++ [';'] := by
    refine ⟨zs.dropLast, ?_⟩
    have hlast := congrArg List.getLast? he
    rw [List.getLast?_append, List.getLast?_append, List.getLast?_eq_some_getLast hz] at hlast
    have hl : zs.getLast hz = ';' := (Option.some.inj hlast).symm
    rw [← hl, List.dropLast_concat_getLast hz]
  have htext : text = ys ++ zs := by
    rw [← List.append_assoc] at he
    exact List.append_cancel_right he
  have hus : (s.past ys (zs ++ [';'] ++ rest)).rest = zs ++ ';' :: rest := by
    simp [Spot.past]
  have hin {c : Char} (hc : c ∈ zs) : c ∈ text := htext ▸ List.mem_append_right _ hc
  -- The opening of a definition passes no parenthesis, so the body starts at the first one left.
  rw [agrees_tableBody.matchAt] at hm
  obtain ⟨v, hv, hbody⟩ := exists_meets_of_tryAt tableOpening hm
  obtain ⟨taken, hsp⟩ := hv.exists_spans
  obtain ⟨ws, rfl, hvr⟩ := (holdsOff_tableOpening (by decide) (by decide) hv).exists_eq_append
    hsp hus fun c hc => (h.unquoted c (hin hc)).2
  have hopens : opensTable taken := opensTable_of_tableOpening hv hsp fun c hc =>
    (h.unquoted c (hin (List.mem_append_left _ hc))).2
  have hparen {back : List Char} (hb : ws = '(' :: back) :
      text = (ys ++ taken) ++ '(' :: back := by
    rw [htext, hb, List.append_assoc]
  obtain ⟨t, ht, hoff⟩ := exists_of_tableBody (fun t => Option.some_ne_none _) hvr
    (fun hc => (h.unquoted _ (hin (List.mem_append_right _ hc))).1 rfl)
    (fun back hb => h.closes.exists_closing hopens (hparen hb)) hbody
  obtain rfl := Option.some.inj ht
  have hlen := congrArg List.length he
  have hvo := hsp.offset
  simp only [Spot.past, List.length_append, List.length_singleton] at hlen hvo hoff ⊢
  omega

end Body

end SchemaText.Sql.Statement

namespace SchemaText.Sql.Core

open Pattern Statement
open Text (stops_cons)

/-- A text that may hold anything but quoted names, comments and semicolons, and in which the body
of no table is left open at the end. -/
structure Broken (text : List Char) : Prop extends Closed text where
  line_free : ¬ ['-', '-'] <:+: text
  block_free : ¬ ['/', '*'] <:+: text

theorem Broken.closed_foldLineEnds {text : List Char} (h : Broken text) :
    Closed (Comment.foldLineEnds text) where
  unquoted c hc := by
    rcases Comment.mem_foldLineEnds hc with hc | rfl
    · exact h.unquoted c hc
    · exact ⟨by decide, by decide⟩
  closes := h.closes.foldLineEnds

theorem exists_findAll_createTable {text : List Char} (h : Closed text) (definition : Definition)
    {texts : List (String × List Char)} (ht : tableTexts definition = some texts) :
    ∃ found m, createTable.findAll (text ++ [';'] ++ (['\n'] ++ definition.chars)) = found ++ [m] ∧
      Covers (text.length + 2) definition texts m := by
  have hempty : createTable.FailsOn [] :=
    agrees_createTable.failsOn (failsOn_keyed_of_stops (by decide) (by decide) (Text.stops_nil _))
  have hline (rest : List Char) : createTable.FailsOn ('\n' :: rest) :=
    agrees_createTable.failsOn (failsOn_keyed_of_stops (by decide) (by decide) (stops_cons.2 rfl))
  generalize hs : (⟨0, none, text ++ [';'] ++ (['\n'] ++ definition.chars), []⟩ : Spot) = s
  have hr : s.rest = text ++ [';'] ++ (['\n'] ++ definition.chars) := by rw [← hs]
  -- What is found in the text ends in it, so that the search comes to the definition.
  obtain ⟨found, free, hfound, hfree⟩ :=
    findFrom_of_contained (contained_createTable h _) hr (Nat.zero_le _)
  rw [findFrom_of_silent (silent_singleton (hline definition.chars))
    (s := s.past (text ++ [';']) (['\n'] ++ definition.chars)) rfl, Spot.past_past] at hfound
  have hpast : (s.past (text ++ [';'] ++ ['\n']) definition.chars).rest =
      definition.chars ++ linesText [] := by simp [Spot.past, linesText]
  have hbefore : (s.past (text ++ [';'] ++ ['\n']) definition.chars).before = some '\n' := by
    simp [Spot.past]
  have hrecognises : ∀ d ∈ [definition], Recognises createTable tableTexts d :=
    fun d _ => recognises_createTable d
  obtain ⟨last, hlast, hfinds⟩ :=
    exists_finds_from hrecognises hempty hline free hpast (by rw [← hs]; rfl)
    (by rw [hbefore]; decide) (by simp only [Spot.past, List.length_append] at hfree ⊢; omega)
  cases hfinds with
  | skip hn _ => rw [ht] at hn; cases hn
  | @found _ _ _ _ m _ hx hm hk =>
    cases hk
    obtain rfl := Option.some.inj (ht.symm.trans hx)
    refine ⟨found, m, ?_, ?_⟩
    · rw [← hlast, ← hfound, ← hs]
      rfl
    · have hoffset : (s.past (text ++ [';'] ++ ['\n']) definition.chars).offset =
          text.length + 2 := by
        rw [← hs]
        simp [Spot.past]
      rwa [← hoffset]

section Tables

/-- The table is there, with whatever indexes. -/
def Holds (table : Table) (tables : List Table) : Prop :=
  ∃ indexes, { table with indexes := indexes } ∈ tables

theorem holds_putTable (table : Table) (tables : List Table) :
    Holds table (putTable table tables) := by
  refine ⟨table.indexes, ?_⟩
  induction tables with
  | nil => exact List.mem_singleton_self _
  | cons first tables ih =>
    unfold putTable
    split
    · exact List.mem_cons_self
    · exact List.mem_cons_of_mem _ ih

theorem Holds.addIndex? {table : Table} {id : String} {index : Index} {tables changed : List Table}
    (h : Holds table tables) (k : addIndex? id index tables = some changed) :
    Holds table changed := by
  obtain ⟨indexes, hm⟩ := h
  induction tables generalizing changed with
  | nil => cases hm
  | cons first tables ih =>
    unfold Sql.addIndex? at k
    split at k
    · cases k
      rcases List.mem_cons.1 hm with rfl | hm
      · exact ⟨_, List.mem_cons_self⟩
      · exact ⟨indexes, List.mem_cons_of_mem _ hm⟩
    · obtain ⟨others, ho, rfl⟩ := Option.map_eq_some_iff.1 k
      rcases List.mem_cons.1 hm with rfl | hm
      · exact ⟨indexes, List.mem_cons_self⟩
      · obtain ⟨indexes', hm'⟩ := ih ho hm
        exact ⟨indexes', List.mem_cons_of_mem _ hm'⟩

theorem Holds.addIndex {table : Table} {progress : Progress} (h : Holds table progress.tables)
    (m : Match) : Holds table (progress.addIndex m).tables := by
  unfold Progress.addIndex
  dsimp only
  split
  · next hk => exact h.addIndex? hk
  · exact h

theorem Holds.foldl {table : Table} {step : Progress → Match → Progress}
    (hstep : ∀ progress m, Holds table progress.tables → Holds table (step progress m).tables)
    (found : List Match) {progress : Progress} (h : Holds table progress.tables) :
    Holds table (found.foldl step progress).tables := by
  induction found generalizing progress with
  | nil => exact h
  | cons m found ih => exact ih (hstep progress m h)

end Tables

theorem notMem_markers (definition : Definition) :
    ∀ c ∈ ";\n".toList ++ definition.chars, c ≠ '\r' ∧ c ≠ '-' ∧ c ≠ '/' ∧ c ≠ '*' := by
  have hfixed : ∀ c ∈ [';', '\n'], c ≠ '\r' ∧ c ≠ '-' ∧ c ≠ '/' ∧ c ≠ '*' := by simp
  intro c hc
  rcases List.mem_append.1 hc with hc | hc
  · exact hfixed c hc
  · rcases List.mem_append.1 hc with hc | hc
    · have hstem : isStemChar c := List.all_eq_true.1 definition.all_stem c hc
      refine ⟨?_, ?_, ?_, ?_⟩ <;>
        · rintro rfl
          exact absurd hstem (by decide)
    · exact hfixed c (List.mem_cons.2 (.inl (List.mem_singleton.1 hc)))

/-- A definition of a table is read whatever broken text stands before it, as long as the body of no
table is left open there: only the indexes of the table can come from elsewhere. -/
theorem holds_read_of_broken {text : List Char} (h : Broken text) {id : Id}
    {clauses : List TableClause} (k : TableFits clauses) :
    Holds (tableOf id clauses)
      (read (String.ofList
        (text ++ ";\n".toList ++ (Definition.table id clauses).chars))).schema.tables := by
  have hstrip : Comment.strip (text ++ ";\n".toList ++ (Definition.table id clauses).chars) =
      Comment.foldLineEnds text ++ [';'] ++ (['\n'] ++ (Definition.table id clauses).chars) := by
    rw [List.append_assoc, Comment.strip_append h.line_free h.block_free
      (notMem_markers (Definition.table id clauses))
      (stops_cons.2 (by decide) : Text.Stops _ (';' :: _))]
    simp
  obtain ⟨found, m, hfound, hm⟩ := exists_findAll_createTable h.closed_foldLineEnds
    (Definition.table id clauses) rfl
  unfold read readStripped
  rw [String.toList_ofList, hstrip]
  show Holds _ (Statements.ofText _).progress.tables
  -- Indexes and keys come after the tables, and keys leave the tables alone.
  have hkey (progress : Progress) (m : Match) (hp : Holds (tableOf id clauses) progress.tables) :
      Holds (tableOf id clauses) (progress.addForeignKey m).tables := hp
  refine Holds.foldl hkey _ (Holds.foldl (fun progress m hp => hp.addIndex m) _ ?_)
  show Holds _ ((createTable.findAll _).foldl Progress.addTable {}).tables
  rw [hfound, List.foldl_append, List.foldl_cons, List.foldl_nil, addTable_eq rfl hm k]
  exact holds_putTable _ _

def brokenText : List Char :=
  ("ALTER TABLE a ADD FOREIGN KEY (b CREATE TYPE c AS ENUM (d INSERT INTO e VALUES (1, SELECT f(g" ++
    "\r\nCREATE TABLE IF (a (int), - / b text) CREATE INDEX ON").toList

def keyedClauses : List TableClause :=
  [.column ⟨orderId, orderDecimal, [.primaryKey]⟩]

theorem holds_read_of_brokenText :
    Broken brokenText ∧ TableFits keyedClauses ∧
      Holds (tableOf orderTable keyedClauses) (read (String.ofList (brokenText ++ ";\n".toList ++
        (Definition.table orderTable keyedClauses).chars))).schema.tables := by
  have hall : brokenText.all fun c => decide (c ≠ ';' ∧ c ∉ nameOpeners) := by decide +kernel
  have hbroken : Broken brokenText :=
    ⟨⟨fun c hc => of_decide_eq_true (List.all_eq_true.1 hall c hc), by decide +kernel⟩,
      by decide +kernel, by decide +kernel⟩
  have hfits : TableFits keyedClauses :=
    ⟨⟨⟨by decide, by decide, by decide⟩, trivial⟩, List.cons_ne_nil _ _⟩
  exact ⟨hbroken, hfits, holds_read_of_broken hbroken hfits⟩

/-- A parenthesis that is left open takes the next definition with it, and nothing reports that. -/
theorem lost_of_openParenthesis :
    (∀ table ∈ (read "CREATE TABLE a (id int;\nCREATE TABLE t (x int);").schema.tables,
      table.id ≠ "t") ∧
      (read "CREATE TABLE a (id int;\nCREATE TABLE t (x int);").diagnostics = [] := by
  decide +kernel

end SchemaText.Sql.Core
