import SchemaText.Proofs.Sql.Cleaned
import SchemaText.Sql.Clause
/-! The body of a table definition, cut into its clauses. -/

namespace SchemaText.Sql.Core

open Diagram (isPlain)
open Clause
open Text (Firm firm_append)

def Keeps (nesting : Nesting) (text : List Char) : Prop :=
  ∀ rest, cut nesting (text ++ rest) = (cut nesting rest).modifyHead (text ++ ·)

section Cutting

theorem modifyHead_append (xs ys : List Char) (parts : List (List Char)) :
    (parts.modifyHead (ys ++ ·)).modifyHead (xs ++ ·) = parts.modifyHead (xs ++ ys ++ ·) := by
  cases parts <;> simp

theorem keeps_nil (nesting : Nesting) : Keeps nesting [] := by
  intro rest
  cases h : cut nesting rest <;> simp [h]

theorem Keeps.append {xs ys : List Char} (h : Keeps nesting xs) (k : Keeps nesting ys) :
    Keeps nesting (xs ++ ys) := by
  intro rest
  rw [List.append_assoc, h, k, modifyHead_append]

theorem cut_cons_of_not_top (nesting : Nesting) {c : Char} (h : ¬ (c = ',' ∧ nesting.isTop))
    (rest : List Char) :
    cut nesting (c :: rest) = (cut (nesting.after c) rest).modifyHead (c :: ·) := by
  rw [cut, if_neg h]

theorem keeps_of_forall {depth : Nat} {text : List Char}
    (h : ∀ c ∈ text, isMark c = false ∧ c ≠ '(' ∧ c ≠ ')' ∧ (depth = 0 → c ≠ ',')) :
    Keeps { depth := depth } text := by
  induction text with
  | nil => exact keeps_nil _
  | cons c text ih =>
    intro rest
    obtain ⟨hmark, hopen, hclose, hcomma⟩ := h c List.mem_cons_self
    have hnot : ¬ (c = ',' ∧ ({ depth := depth } : Nesting).isTop) := by
      rintro ⟨hc, htop⟩
      exact hcomma (by simpa [Nesting.isTop] using htop) hc
    have hafter : ({ depth := depth } : Nesting).after c = { depth := depth } := by
      simp [Nesting.after, hmark, hopen, hclose]
    have hrest := ih (fun d hd => h d (List.mem_cons_of_mem _ hd)) rest
    rw [List.cons_append, cut_cons_of_not_top _ hnot, hafter, hrest]
    cases cut { depth := depth } rest <;> simp

theorem keeps_of_all {depth : Nat} {text : List Char} (h : text.all isListChar)
    (k : depth = 0 → ',' ∉ text) : Keeps { depth := depth } text := by
  refine keeps_of_forall fun c hc => ?_
  have hl := List.all_eq_true.1 h c hc
  have hne {d : Char} (hd : isListChar d = false) : c ≠ d := by
    rintro rfl
    simp [hl] at hd
  have hmark : isMark c = false := by
    simpa [isMark, and_assoc] using
      ⟨hne (d := '\'') (by decide), hne (d := '"') (by decide), hne (d := '`') (by decide)⟩
  exact ⟨hmark, hne (by decide), hne (by decide), fun hd he => k hd (he ▸ hc)⟩

theorem Keeps.enclosed {text : List Char} (h : Keeps { depth := 1 } text) :
    Keeps {} (enclosed text) := by
  intro rest
  have hin := h (')' :: rest)
  have hclose := cut_cons_of_not_top { depth := 1 } (c := ')') (by decide) rest
  have hopen := cut_cons_of_not_top {} (c := '(') (by decide) (text ++ ')' :: rest)
  have ho : ({} : Nesting).after '(' = { depth := 1 } := rfl
  have hc : ({ depth := 1 } : Nesting).after ')' = {} := rfl
  rw [ho, hin, hclose, hc] at hopen
  have hrest : Core.enclosed text ++ rest = '(' :: (text ++ ')' :: rest) := by simp [Core.enclosed]
  rw [hrest, hopen]
  cases cut {} rest <;> simp [Core.enclosed]

theorem keeps_enclosed {text : List Char} (h : text.all isListChar) : Keeps {} (enclosed text) :=
  (keeps_of_all h fun hd => absurd hd (by decide)).enclosed

theorem keeps_word (w : Word) : Keeps {} w.chars :=
  keeps_of_all (w.all isListChar_of_isPlain) fun _ hin => absurd (w.plain _ hin) (by decide)

theorem keeps_text {text : List Char} (h : text.all fun c => isPlain c || c == ' ') :
    Keeps {} text := by
  have hlist : text.all isListChar := by
    refine List.all_eq_true.2 fun c hc => ?_
    have hk := List.all_eq_true.1 h c hc
    rcases Bool.or_eq_true_iff.1 hk with hk | hk
    · exact isListChar_of_isPlain c hk
    · obtain rfl := beq_iff_eq.1 hk
      decide
  exact keeps_of_all hlist fun _ hin => absurd (List.all_eq_true.1 h _ hin) (by decide)

theorem keeps_id (id : Id) : Keeps {} id.chars := by
  unfold Id.chars
  split
  · exact keeps_word id.name
  · next schema _ =>
    have hdot : Keeps {} ['.'] := by
      intro rest
      rw [List.singleton_append, cut_cons_of_not_top _ (by decide)]
      rfl
    exact (keeps_word schema).append (hdot.append (keeps_word id.name))

theorem keeps_type (type : TypeName) : Keeps {} type.chars := by
  unfold TypeName.chars
  refine (keeps_word type.word).append ?_
  split
  · exact keeps_nil _
  · refine keeps_enclosed (all_intercalate (by decide) fun part hp => ?_)
    obtain ⟨w, _, rfl⟩ := List.mem_map.1 hp
    exact w.all isListChar_of_isPlain

theorem keeps_flags (flags : List Flag) : Keeps {} (flags.flatMap Flag.chars) := by
  induction flags with
  | nil => exact keeps_nil _
  | cons flag flags ih =>
    rw [List.flatMap_cons]
    refine Keeps.append (keeps_text ?_) ih
    cases flag <;> decide

theorem keeps_clause (clause : TableClause) : Keeps {} clause.chars := by
  have hnames (names : List Word) := keeps_enclosed (all_namesText names)
  cases clause with
  | column column =>
    have hspace : Keeps {} [' '] := keeps_text (by decide)
    exact (keeps_word column.name).append
      (hspace.append ((keeps_type column.type).append (keeps_flags column.flags)))
  | primaryKey columns => exact (keeps_text (by decide)).append (hnames columns)
  | foreignKey pairs target =>
    exact ((((keeps_text (by decide)).append (hnames _)).append (keeps_text (by decide))).append
      (keeps_id target)).append (hnames _)
  | unique columns => exact (keeps_text (by decide)).append (hnames columns)

theorem cut_bodyText (clause : TableClause) (clauses : List TableClause) :
    cut {} (bodyText (clause :: clauses)) =
      clause.chars :: clauses.map fun other => ' ' :: other.chars := by
  -- A clause keeps the nesting at the top, so it is cut at the comma behind it and nowhere else.
  induction clauses generalizing clause with
  | nil =>
    have hc := keeps_clause clause []
    have ht : bodyText [clause] = clause.chars ++ [] := by simp [bodyText, List.intercalate]
    rw [ht, hc]
    simp [cut]
  | cons next clauses ih =>
    have ht : bodyText (clause :: next :: clauses) =
        clause.chars ++ ',' :: (' ' :: bodyText (next :: clauses)) := by
      simp [bodyText, List.intercalate]
    have hspace := cut_cons_of_not_top {} (c := ' ') (by decide)
      (bodyText (next :: clauses))
    have hafter : ({} : Nesting).after ' ' = {} := rfl
    rw [ht, keeps_clause clause, cut, if_pos (by decide), hspace, hafter, ih next]
    simp

end Cutting

section Ends

theorem firm_enclosed (text : List Char) : Firm (enclosed text) := by
  have h : Firm (['('] ++ (text ++ [')'])) :=
    firm_append ⟨'(', rfl, by decide⟩ text ⟨')', rfl, by decide⟩
  exact h

theorem firm_type (type : TypeName) : Firm type.chars := by
  unfold TypeName.chars
  split
  · rw [List.append_nil]
    exact firm_word type.word
  · exact firm_append (firm_word type.word).head [] (firm_enclosed _).last

theorem firm_column (column : ColumnDefinition) : Firm column.chars := by
  have hname := (firm_word column.name).head
  unfold ColumnDefinition.chars
  rcases column.flags.eq_nil_or_concat with h | ⟨flags, flag, h⟩
  · rw [h, List.flatMap_nil, List.append_nil]
    exact firm_append hname [' '] (firm_type column.type).last
  · have hflag : ∃ c, flag.chars.getLast? = some c ∧ Text.isBlank c = false := by
      cases flag with
      | notNull => exact ⟨'L', by decide, by decide⟩
      | unique => exact ⟨'E', by decide, by decide⟩
      | primaryKey => exact ⟨'Y', by decide, by decide⟩
    have hfirm := firm_append hname (' ' :: (column.type.chars ++ flags.flatMap Flag.chars)) hflag
    rw [h, List.concat_eq_append, List.flatMap_append, List.flatMap_singleton]
    simpa only [List.cons_append, List.append_assoc] using hfirm

theorem firm_clause (clause : TableClause) : Firm clause.chars := by
  have hnames (names : List Word) := (firm_enclosed (namesText names)).last
  cases clause with
  | column column => exact firm_column column
  | primaryKey columns => exact firm_append ⟨'P', by decide, by decide⟩ [] (hnames columns)
  | foreignKey pairs target => exact firm_append ⟨'F', rfl, by decide⟩ [] (hnames _)
  | unique columns => exact firm_append ⟨'U', by decide, by decide⟩ [] (hnames columns)

end Ends

section Clauses

theorem dropBlankEnd_of_firm {parts : List (Nat × List Char)}
    (h : ∀ part ∈ parts, Text.trim part.2 ≠ []) : dropBlankEnd parts = parts := by
  unfold dropBlankEnd
  cases hl : parts.getLast? with
  | none => rfl
  | some part =>
    have hp := h part (List.mem_of_getLast? hl)
    simp [hp]

theorem map_trim_ofText {text : List Char} (h : ∀ part ∈ cut {} text, Text.trim part ≠ []) :
    (ofText text).map (fun part => part.trim.text) = (cut {} text).map Text.trim := by
  have hfirm : ∀ part ∈ Text.located 0 (cut {} text), Text.trim part.2 ≠ [] := fun _ hp =>
    h _ (Text.mem_of_mem_located hp)
  unfold ofText
  rw [dropBlankEnd_of_firm hfirm, List.map_map, ← Text.map_snd_located 0 (cut {} _),
    List.map_map, Text.map_snd_located]
  rfl

theorem trimmed_ofText (clause : TableClause) (clauses : List TableClause) :
    (ofText (bodyText (clause :: clauses))).map (fun part => part.trim.text) =
      (clause :: clauses).map TableClause.chars := by
  have htrim (other : TableClause) : Text.trim (' ' :: other.chars) = other.chars := by
    rw [Text.trim_space_cons, (firm_clause other).trim]
  rw [map_trim_ofText, cut_bodyText, List.map_cons, (firm_clause clause).trim, List.map_map,
    List.map_cons]
  · congr 1
    exact List.map_congr_left fun other _ => htrim other
  · intro part hp
    rw [cut_bodyText, List.mem_cons, List.mem_map] at hp
    rcases hp with rfl | ⟨other, _, rfl⟩
    · rw [(firm_clause clause).trim]
      exact (firm_clause clause).ne_nil
    · rw [htrim]
      exact (firm_clause other).ne_nil

end Clauses

end SchemaText.Sql.Core
