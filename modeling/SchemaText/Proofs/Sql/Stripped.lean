import SchemaText.Proofs.Sql.CommentFree
/-! What is left of a text when its comments are blanked: a text of the same places without
comments, which blanking leaves as it is. -/

namespace SchemaText.Sql.Comment

/-- Nothing is left to blank: no line end is written in two characters, and no comment of either
kind starts anywhere. -/
structure Stripped (text : List Char) : Prop where
  lineEnds : ¬ ['\r', '\n'] <:+: text
  lines : ¬ ['-', '-'] <:+: text
  blocks : ∀ front back, text = front ++ '/' :: '*' :: back → ¬ ['*', '/'] <:+: back

/-- The texts have the same places: the line ends stay, and what is changed becomes a space. -/
structure SamePlaces (text out : List Char) : Prop where
  length_eq : out.length = text.length
  lineEnd_iff : ∀ i : Nat, out[i]? = some '\n' ↔ text[i]? = some '\n'
  eq_or_space : ∀ (i : Nat) (c d : Char), text[i]? = some c → out[i]? = some d → d = c ∨ d = ' '

section Blanking

variable {text out : List Char}

theorem BlankedTo.eq {c d : Char} (h : BlankedTo c d) (k : d ≠ ' ') : d = c :=
  h.resolve_right fun ⟨hd, _⟩ => k hd

theorem Blanked.of_prefix {p back : List Char} (h : Blanked text (p ++ back)) (k : ' ' ∉ p) :
    ∃ back', text = p ++ back' ∧ Blanked back' back := by
  induction p generalizing text with
  | nil => exact ⟨text, rfl, h⟩
  | cons d p ih =>
    obtain ⟨c, rest, hc, hrest, rfl⟩ := List.forall₂_cons_right_iff.1 h
    obtain ⟨hd, hp⟩ := not_or.1 fun hin => k (List.mem_cons.2 hin)
    obtain rfl : d = c := hc.eq (Ne.symm hd)
    obtain ⟨back', rfl, hback⟩ := ih hrest hp
    exact ⟨back', rfl, hback⟩

theorem Blanked.of_infix {p : List Char} (h : Blanked text out) (k : ' ' ∉ p) (hp : p <:+: out) :
    p <:+: text := by
  induction h with
  | nil => exact hp
  | @cons c d rest out hc hrest ih =>
    rcases List.infix_cons_iff.1 hp with ⟨back, hback⟩ | hp
    · have hall : Blanked (c :: rest) (p ++ back) := hback ▸ .cons hc hrest
      obtain ⟨back', htext, _⟩ := hall.of_prefix k
      exact ⟨[], back', htext.symm⟩
    · exact List.infix_cons (ih hp)

theorem Blanked.samePlaces (h : Blanked text out) : SamePlaces text out where
  length_eq := h.length_eq.symm
  lineEnd_iff := by
    intro i
    induction h generalizing i with
    | nil => exact Iff.rfl
    | @cons c d _ _ hc _ ih =>
      cases i with
      | zero =>
        have hcd : d = '\n' ↔ c = '\n' := by
          rcases hc with rfl | ⟨rfl, hc⟩
          · exact Iff.rfl
          · exact iff_of_false (by decide) hc
        simpa using hcd
      | succ i => exact ih i
  eq_or_space := by
    intro i c d hc hd
    obtain ⟨c', hc', hb⟩ := h.getElem? hd
    obtain rfl : c' = c := Option.some.inj (hc'.symm.trans hc)
    exact hb.imp_right And.left

theorem closes_iff : closes text ↔ ['*', '/'] <:+: text := by
  induction text with
  | nil => exact iff_of_false (by simp [closes]) fun h => by cases List.infix_nil.1 h
  | cons c rest ih =>
    rw [closes_cons, Bool.or_eq_true, ih, List.infix_cons_iff, List.isPrefixOf_iff_prefix]

theorem Blanked.closes (h : Blanked text out) (k : closes out) : closes text :=
  closes_iff.2 (h.of_infix (by decide) (closes_iff.1 k))

end Blanking

section LineEnds

theorem not_pair_cons {a b c : Char} {text : List Char} (hc : c ≠ a) (h : ¬ [a, b] <:+: text) :
    ¬ [a, b] <:+: c :: text := by
  intro k
  rcases List.infix_cons_iff.1 k with k | k
  · exact hc (List.cons_prefix_cons.1 k).1.symm
  · exact h k

theorem not_infix_foldLineEnds (text : List Char) : ¬ ['\r', '\n'] <:+: foldLineEnds text := by
  fun_induction foldLineEnds text with
  | case1 => exact fun h => by cases List.infix_nil.1 h
  | case2 rest ih => exact not_pair_cons (by decide) (not_pair_cons (by decide) ih)
  | case3 c rest hc ih =>
    intro h
    rcases List.infix_cons_iff.1 h with h | h
    · obtain ⟨rfl, out, hout⟩ := List.cons_prefix_cons.1 h
      obtain ⟨tail, rfl⟩ := exists_of_foldLineEnds_eq_cons hout.symm (by decide)
      exact hc tail rfl rfl
    · exact ih h

end LineEnds

section Lines

theorem not_infix_blankLines (inComment : Bool) (text : List Char) :
    ¬ ['-', '-'] <:+: blankLines inComment text := by
  fun_induction blankLines inComment text with
  | case1 => exact fun h => by cases List.infix_nil.1 h
  | case2 c rest ih => exact not_pair_cons (blank_ne (by decide) (by decide)) ih
  | case3 rest ih => exact not_pair_cons (by decide) (not_pair_cons (by decide) ih)
  | case4 c rest hc ih =>
    intro h
    rcases List.infix_cons_iff.1 h with h | h
    · obtain ⟨rfl, out, hout⟩ := List.cons_prefix_cons.1 h
      obtain ⟨tail, _, rfl, _⟩ := exists_of_blankLines_eq_cons hout.symm (by decide) (by decide)
      exact hc tail rfl rfl
    · exact ih h

end Lines

section Blocks

def blockFree : List Char → Bool
  | [] => true
  | c :: rest => !startsBlock (c :: rest) && blockFree rest

theorem blockFree_cons {c : Char} {rest : List Char} :
    blockFree (c :: rest) ↔ startsBlock (c :: rest) = false ∧ blockFree rest := by
  rw [blockFree, Bool.and_eq_true, Bool.not_eq_true']

theorem startsBlock_of_ne {c : Char} (h : c ≠ '/') (rest : List Char) :
    startsBlock (c :: rest) = false := by
  unfold startsBlock
  split
  · next heq => exact absurd (List.cons.inj heq).1 h
  · rfl

theorem blockFree_blankBlocks (inComment : Bool) (text : List Char) :
    blockFree (blankBlocks inComment text) := by
  have hcons {c : Char} {out : List Char} (hc : c ≠ '/') (ih : blockFree out) :
      blockFree (c :: out) :=
    blockFree_cons.2 ⟨startsBlock_of_ne hc out, ih⟩
  fun_induction blankBlocks inComment text with
  | case1 => rfl
  | case2 rest ih => exact hcons (by decide) (hcons (by decide) ih)
  | case3 c rest _ ih => exact hcons (blank_ne (by decide) (by decide)) ih
  | case4 rest _ ih => exact hcons (by decide) (hcons (by decide) ih)
  | case5 rest hclose ih =>
    -- What closes no block before closes none afterwards.
    refine blockFree_cons.2 ⟨?_, hcons (by decide) ih⟩
    exact Bool.eq_false_iff.2 fun k => hclose ((blanked_blankBlocks false rest).closes k)
  | case6 c rest hc ih =>
    refine blockFree_cons.2 ⟨Bool.eq_false_iff.2 fun k => ?_, ih⟩
    unfold startsBlock at k
    split at k
    · next tail heq =>
      obtain ⟨rfl, hout⟩ := List.cons.inj heq
      have hrest := blanked_blankBlocks false rest
      rw [hout] at hrest
      obtain ⟨tail', rfl, _⟩ := hrest.of_prefix (p := ['*']) (by decide)
      exact hc tail' rfl rfl
    · cases k

theorem blankBlocks_of_blockFree {text : List Char} (h : blockFree text) :
    blankBlocks false text = text := by
  induction text with
  | nil => rfl
  | cons c rest ih =>
    obtain ⟨hc, hrest⟩ := blockFree_cons.1 h
    rw [blankBlocks_false_cons hc, ih hrest]

theorem blockFree_iff {text : List Char} :
    blockFree text ↔ ∀ front back, text = front ++ '/' :: '*' :: back → ¬ ['*', '/'] <:+: back := by
  induction text with
  | nil => exact iff_of_true rfl fun front back h => by cases front <;> cases h
  | cons c rest ih =>
    rw [blockFree_cons, ih]
    constructor
    · rintro ⟨hc, hrest⟩ front back h
      cases front with
      | nil =>
        rw [h] at hc
        exact fun k => Bool.eq_false_iff.1 hc (closes_iff.2 k)
      | cons d front => exact hrest front back (List.cons.inj h).2
    · intro h
      refine ⟨Bool.eq_false_iff.2 fun k => ?_, fun front back hr =>
        h (c :: front) back (congrArg (c :: ·) hr)⟩
      unfold startsBlock at k
      split at k
      · next tail heq => exact h [] tail heq (closes_iff.1 k)
      · cases k

end Blocks

theorem stripped_strip (sql : List Char) : Stripped (strip sql) := by
  have hblocks := blanked_blankBlocks false (blankLines false (foldLineEnds sql))
  have hlines := blanked_blankLines false (foldLineEnds sql)
  exact
    { lineEnds := fun h =>
        not_infix_foldLineEnds sql (hlines.of_infix (by decide) (hblocks.of_infix (by decide) h))
      lines := fun h => not_infix_blankLines false _ (hblocks.of_infix (by decide) h)
      blocks := blockFree_iff.1 (blockFree_blankBlocks false _) }

theorem Stripped.strip_eq {text : List Char} (h : Stripped text) : strip text = text := by
  unfold strip
  rw [foldLineEnds_eq_self h.lineEnds, blankLines_eq_self h.lines,
    blankBlocks_of_blockFree (blockFree_iff.2 h.blocks)]

/-- Blanking the comments moves nothing and leaves none, so that doing it again changes nothing. -/
theorem stripped_and_samePlaces_strip (sql : List Char) :
    SamePlaces sql (strip sql) ∧ Stripped (strip sql) ∧ strip (strip sql) = strip sql :=
  ⟨(blanked_strip sql).samePlaces, stripped_strip sql, (stripped_strip sql).strip_eq⟩

end SchemaText.Sql.Comment
