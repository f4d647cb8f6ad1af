import SchemaText.Proofs.Diagram.ValueText
/-! What names and values the reader can return, whatever the text is. -/

namespace SchemaText.Diagram

theorem quotable_of_subset {xs ys : List Char} (h : ∀ c ∈ xs, c ∈ ys) (k : Quotable ys) :
    Quotable xs := by
  obtain ⟨mark, hm, hn⟩ := k
  exact ⟨mark, hm, fun hx => hn (h mark hx)⟩

theorem quotable_of_isBare {cs : List Char} (h : ∀ c ∈ cs, isBare c) : Quotable cs := by
  refine ⟨'"', by decide, fun hc => ?_⟩
  exact absurd (h '"' hc) (by decide)

theorem quotable_nil : Quotable [] :=
  quotable_of_isBare (by simp)

theorem quotableParts_of_quotable {cs : List Char} (h : Quotable cs) : QuotableParts cs :=
  fun _ hp => quotable_of_subset (Text.mem_of_mem_split hp) h

theorem quotableParts_append_dot {xs ys : List Char} (h : QuotableParts xs)
    (k : QuotableParts ys) : QuotableParts (xs ++ '.' :: ys) := by
  intro part hp
  rw [Text.split_append_cons (by simp), List.mem_append] at hp
  exact hp.elim (h part) (k part)

theorem QuotableParts.left {xs ys : List Char} (h : QuotableParts (xs ++ '.' :: ys)) :
    QuotableParts xs := by
  intro part hp
  refine h part ?_
  rw [Text.split_append_cons (by simp)]
  exact List.mem_append_left _ hp

theorem QuotableParts.right {xs ys : List Char} (h : QuotableParts (xs ++ '.' :: ys)) :
    QuotableParts ys := by
  intro part hp
  refine h part ?_
  rw [Text.split_append_cons (by simp)]
  exact List.mem_append_right _ hp

namespace Cursor

theorem quotable_readQuoted {mark : Char} (h : isMark mark) (c : Cursor) :
    Quotable (c.readQuoted mark).1 := by
  refine ⟨mark, isMark_iff.1 h, fun hm => ?_⟩
  have hc := List.all_eq_true.1 (List.all_takeWhile (p := (· ≠ mark)) (l := c.rest)) mark hm
  simp at hc

theorem isMark_of_mark? {c : Cursor} {mark : Char} (h : c.mark? = some mark) : isMark mark :=
  (Option.filter_eq_some_iff.1 h).2

theorem quotable_readName (c : Cursor) : Quotable c.readName.1 := by
  unfold readName
  split
  · next mark hm => exact quotable_readQuoted (isMark_of_mark? hm) _
  · exact quotable_of_isBare (List.all_eq_true.1 List.all_takeWhile)

theorem exists_eq_append_of_endsInDot {xs : List Char} (h : endsInDot xs) :
    ∃ ys, xs = ys ++ ['.'] := by
  obtain ⟨ys, hy⟩ := List.getLast?_eq_some_iff.1 (beq_iff_eq.1 h)
  exact ⟨ys, hy⟩

theorem quotableParts_readNameTail (dotted : Bool) (c : Cursor) :
    ∀ xs, QuotableParts xs → (dotted → endsInDot xs) →
      QuotableParts (xs ++ (c.readNameTail dotted).1) := by
  -- The name so far is general, since each part is added to it before the reader goes on.
  fun_induction readNameTail dotted c with
  | case1 dotted c hd hc part tail ih =>
    intro xs h _
    have hp : QuotableParts (xs ++ '.' :: part.1) :=
      quotableParts_append_dot h (quotableParts_of_quotable (quotable_readName _))
    have ht := ih _ hp (by rw [endsInDot_append_cons]; exact id)
    simpa [tail] using ht
  | case2 dotted c hd hc =>
    intro xs h _
    exact quotableParts_append_dot h (quotableParts_of_quotable quotable_nil)
  | case3 dotted c hd hm part tail ih =>
    intro xs h k
    obtain ⟨ys, rfl⟩ := exists_eq_append_of_endsInDot (k (Bool.and_eq_true_iff.1 hm).1)
    have hp : QuotableParts (ys ++ '.' :: part.1) :=
      quotableParts_append_dot h.left (quotableParts_of_quotable (quotable_readName _))
    have ht := ih _ hp (by rw [endsInDot_append_cons]; exact id)
    simpa [tail] using ht
  | case4 dotted c hd hm =>
    intro xs h _
    simpa using h

theorem quotableParts_readQualifiedName (c : Cursor) : QuotableParts c.readQualifiedName.1 :=
  quotableParts_readNameTail _ _ _ (quotableParts_of_quotable (quotable_readName c)) id

theorem head_trim_takeWhile {accepts : Char → Bool} {cs : List Char}
    (h : Stops Text.isBlank cs) {ch : Char} {rest : List Char}
    (k : Text.trim (cs.takeWhile accepts) = ch :: rest) : cs.head? = some ch := by
  cases cs with
  | nil => simp [Text.trim, Text.trimStart, Text.trimEnd] at k
  | cons first cs =>
    by_cases hf : accepts first
    · rw [List.takeWhile_cons_of_pos hf, Text.trim, Text.trimStart_of_head (stops_cons.1 h)] at k
      obtain ⟨tail, ht⟩ := k ▸ Text.prefix_trimEnd (first :: cs.takeWhile accepts)
      rw [List.head?_cons, (List.cons.inj ht).1]
    · rw [List.takeWhile_cons_of_neg hf] at k
      simp [Text.trim, Text.trimStart, Text.trimEnd] at k

theorem quotable_readValue (c : Cursor) (h : needsQuotes c.readValue.1) :
    Quotable c.readValue.1 := by
  unfold readValue at h ⊢
  dsimp only at h ⊢
  -- A quoted value lacks its own mark. One without quotes has nothing that asks for quotes.
  split at h
  · next hm => exact quotable_readQuoted (isMark_of_mark? hm) _
  · next hm =>
    have hb : Stops Text.isBlank c.skipBlank.rest := stops_skipWhile _ c
    generalize c.skipBlank = d at h hm hb ⊢
    simp only [takeWhile] at h ⊢
    generalize hrun : d.rest.takeWhile (fun ch => decide (ch ≠ ',') && decide (ch ≠ ']') &&
      decide (ch ≠ '\n') && decide (ch ≠ '}')) = run at h ⊢
    by_cases hn : Text.trim run = []
    · rw [hn]
      exact quotable_nil
    · refine absurd h (Bool.eq_false_iff.1
        (needsQuotes_eq_false_iff.2 ⟨hn, Text.trim_trim run, ?_, ?_⟩))
      · intro ch hc
        obtain ⟨rest, hr⟩ := List.head?_eq_some_iff.1 hc
        have hd := head_trim_takeWhile hb (hrun ▸ hr)
        simpa [mark?, peek, hd] using hm
      · intro ch hc
        have hm := (Text.trim_sublist run).subset hc
        rw [← hrun] at hm
        simpa [and_assoc] using List.all_eq_true.1 List.all_takeWhile ch hm

end Cursor

end SchemaText.Diagram
