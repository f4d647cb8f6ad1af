import SchemaText.Proofs.Sql.CommentBlank
import SchemaText.Proofs.Text.Trim
/-! Texts without comments, which blanking leaves alone. -/

namespace SchemaText.Sql.Comment

open Text (Stops stops_cons)

section LineEnds

theorem foldLineEnds_eq_self {text : List Char} (h : ¬ ['\r', '\n'] <:+: text) :
    foldLineEnds text = text := by
  fun_induction foldLineEnds text with
  | case1 => rfl
  | case2 rest ih => exact absurd ⟨[], rest, rfl⟩ h
  | case3 c rest hc ih => rw [ih fun hrest => h (List.infix_cons hrest)]

theorem foldLineEnds_of_notMem {text : List Char} (h : '\r' ∉ text) :
    foldLineEnds text = text :=
  foldLineEnds_eq_self fun hin => h (hin.subset List.mem_cons_self)

theorem exists_of_foldLineEnds_eq_cons {text out : List Char} {c : Char}
    (h : foldLineEnds text = c :: out) (k : c ≠ ' ') : ∃ rest, text = c :: rest := by
  unfold foldLineEnds at h
  split at h
  · cases h
  · exact absurd (List.cons.inj h).1.symm k
  · next d rest _ => exact ⟨rest, congrArg (· :: rest) (List.cons.inj h).1⟩

theorem foldLineEnds_append {ys : List Char} (xs : List Char) (h : Stops (· == '\n') ys) :
    foldLineEnds (xs ++ ys) = foldLineEnds xs ++ foldLineEnds ys := by
  fun_induction foldLineEnds xs with
  | case1 => rfl
  | case2 rest ih => rw [List.cons_append, List.cons_append, foldLineEnds, ih]; rfl
  | case3 c rest hc ih =>
    rw [List.cons_append, foldLineEnds, ih]
    · rfl
    · rintro tail rfl hr
      cases rest with
      | nil =>
        obtain rfl : ys = '\n' :: tail := hr
        exact absurd (stops_cons.1 h) (by decide)
      | cons d rest => exact hc rest rfl (congrArg (· :: rest) (List.cons.inj hr).1)

theorem mem_foldLineEnds {text : List Char} {c : Char} (h : c ∈ foldLineEnds text) :
    c ∈ text ∨ c = ' ' := by
  fun_induction foldLineEnds text with
  | case1 => cases h
  | case2 rest ih =>
    simp only [List.mem_cons] at h ⊢
    rcases h with h | h | h
    · exact .inr h
    · exact .inl (.inr (.inl h))
    · exact (ih h).imp_left fun hm => .inr (.inr hm)
  | case3 d rest hd ih =>
    rcases List.mem_cons.1 h with h | h
    · exact .inl (h ▸ List.mem_cons_self)
    · exact (ih h).imp_left (List.mem_cons_of_mem d)

theorem pair_of_foldLineEnds {a b : Char} (ha : a ≠ ' ' ∧ a ≠ '\n') (hb : b ≠ ' ')
    {text : List Char} (h : [a, b] <:+: foldLineEnds text) : [a, b] <:+: text := by
  fun_induction foldLineEnds text with
  | case1 => exact h
  | case2 rest ih =>
    rcases List.infix_cons_iff.1 h with h | h
    · exact absurd (List.cons_prefix_cons.1 h).1 ha.1
    · rcases List.infix_cons_iff.1 h with h | h
      · exact absurd (List.cons_prefix_cons.1 h).1 ha.2
      · exact List.infix_cons (List.infix_cons (ih h))
  | case3 d rest hd ih =>
    rcases List.infix_cons_iff.1 h with h | h
    · obtain ⟨rfl, out, hout⟩ := List.cons_prefix_cons.1 h
      obtain ⟨tail, rfl⟩ := exists_of_foldLineEnds_eq_cons hout.symm hb
      exact ⟨[], tail, rfl⟩
    · exact List.infix_cons (ih h)

end LineEnds

section Unmarked

variable {xs ys : List Char}

theorem false_of_pair {a b c : Char} (h : ¬ [a, b] <:+: c :: xs) (k : Stops (· == b) ys)
    (tail : List Char) (hc : c = a) (hr : xs ++ ys = b :: tail) : False := by
  cases xs with
  | nil =>
    obtain rfl : ys = b :: tail := hr
    simp [stops_cons] at k
  | cons d xs =>
    obtain ⟨rfl, _⟩ := List.cons.inj hr
    exact h (hc ▸ ⟨[], xs, rfl⟩)

theorem blankLines_append (h : ¬ ['-', '-'] <:+: xs) (k : Stops (· == '-') ys) :
    blankLines false (xs ++ ys) = xs ++ blankLines false ys := by
  induction xs with
  | nil => rfl
  | cons c xs ih =>
    have hc : startsLine (c :: (xs ++ ys)) = false :=
      startsLine_eq_false_iff.2 (false_of_pair h k)
    rw [List.cons_append, blankLines_false_cons hc, ih fun hx => h (List.infix_cons hx)]
    rfl

theorem blankBlocks_append (h : ¬ ['/', '*'] <:+: xs) (k : Stops (· == '*') ys) :
    blankBlocks false (xs ++ ys) = xs ++ blankBlocks false ys := by
  induction xs with
  | nil => rfl
  | cons c xs ih =>
    rw [List.cons_append, blankBlocks, ih fun hx => h (List.infix_cons hx)]
    · rfl
    · exact false_of_pair h k

theorem blankLines_eq_self {text : List Char} (h : ¬ ['-', '-'] <:+: text) :
    blankLines false text = text := by
  have happend := blankLines_append h (Text.stops_nil _)
  rwa [List.append_nil, blankLines, List.append_nil] at happend

theorem blankLines_of_notMem {text : List Char} (h : '-' ∉ text) :
    blankLines false text = text :=
  blankLines_eq_self fun hin => h (hin.subset List.mem_cons_self)

theorem blankBlocks_of_notMem {text : List Char} (h : '/' ∉ text) :
    blankBlocks false text = text := by
  induction text with
  | nil => rfl
  | cons c text ih =>
    have hc : c ≠ '/' := fun he => h (by simp [he])
    rw [blankBlocks, ih fun hin => h (List.mem_cons_of_mem _ hin)]
    intro rest he
    exact absurd he hc

theorem strip_append {text rest : List Char} (hl : ¬ ['-', '-'] <:+: text)
    (hb : ¬ ['/', '*'] <:+: text)
    (h : ∀ c ∈ rest, c ≠ '\r' ∧ c ≠ '-' ∧ c ≠ '/' ∧ c ≠ '*') (k : Stops (· == '\n') rest) :
    strip (text ++ rest) = foldLineEnds text ++ rest := by
  have hnot {c : Char} (hc : ∀ d ∈ rest, d ≠ c) : c ∉ rest := fun hin => hc c hin rfl
  have hstops {c : Char} (hc : ∀ d ∈ rest, d ≠ c) : Stops (· == c) rest := by
    intro d hd
    simpa using hc d (List.mem_of_mem_head? hd)
  unfold strip
  rw [foldLineEnds_append text k, foldLineEnds_of_notMem (hnot fun c hc => (h c hc).1),
    blankLines_append (fun hx => hl (pair_of_foldLineEnds (by decide) (by decide) hx))
      (hstops fun c hc => (h c hc).2.1),
    blankLines_of_notMem (hnot fun c hc => (h c hc).2.1),
    blankBlocks_append (fun hx => hb (pair_of_foldLineEnds (by decide) (by decide) hx))
      (hstops fun c hc => (h c hc).2.2.2),
    blankBlocks_of_notMem (hnot fun c hc => (h c hc).2.2.1)]

end Unmarked

end SchemaText.Sql.Comment
