import Mathlib.Data.List.Forall2
import SchemaText.Proofs.Sql.CommentScan
/-! Blanked comments: every character of a text stays where it is, or a space takes its place. -/

namespace SchemaText.Sql.Comment

def BlankedTo (c d : Char) : Prop :=
  d = c ∨ d = ' ' ∧ c ≠ '\n'

theorem BlankedTo.refl (c : Char) : BlankedTo c c :=
  .inl rfl

theorem BlankedTo.trans {c d e : Char} (h : BlankedTo c d) (k : BlankedTo d e) :
    BlankedTo c e := by
  rcases h with rfl | ⟨rfl, hc⟩
  · exact k
  · rcases k with rfl | ⟨rfl, _⟩
    · exact .inr ⟨rfl, hc⟩
    · exact .inr ⟨rfl, hc⟩

theorem blankedTo_blank (c : Char) : BlankedTo c (blank c) := by
  unfold blank
  split
  · next h => exact .inl h.symm
  · next h => exact .inr ⟨rfl, h⟩

theorem blankedTo_space {c : Char} (h : c ≠ '\n') : BlankedTo c ' ' :=
  .inr ⟨rfl, h⟩

abbrev Blanked (text out : List Char) : Prop :=
  List.Forall₂ BlankedTo text out

theorem Blanked.trans {text middle out : List Char} (h : Blanked text middle)
    (k : Blanked middle out) : Blanked text out := by
  induction h generalizing out with
  | nil => exact k
  | cons hc _ ih =>
    cases k with
    | cons hd k => exact .cons (hc.trans hd) (ih k)

theorem Blanked.getElem? {text out : List Char} (h : Blanked text out) {i : Nat} {d : Char}
    (k : out[i]? = some d) : ∃ c, text[i]? = some c ∧ BlankedTo c d := by
  induction h generalizing i with
  | nil => cases k
  | @cons c first _ _ hc _ ih =>
    cases i with
    | zero =>
      obtain rfl : first = d := Option.some.inj k
      exact ⟨c, rfl, hc⟩
    | succ i => exact ih k

theorem blanked_foldLineEnds (text : List Char) : Blanked text (foldLineEnds text) := by
  fun_induction foldLineEnds text with
  | case1 => exact .nil
  | case2 rest ih => exact .cons (blankedTo_space (by decide)) (.cons (.refl _) ih)
  | case3 c rest _ ih => exact .cons (.refl c) ih

theorem blanked_blankLines (inComment : Bool) (text : List Char) :
    Blanked text (blankLines inComment text) := by
  fun_induction blankLines inComment text with
  | case1 => exact .nil
  | case2 c rest ih => exact .cons (blankedTo_blank c) ih
  | case3 rest ih =>
    exact .cons (blankedTo_space (by decide)) (.cons (blankedTo_space (by decide)) ih)
  | case4 c rest _ ih => exact .cons (.refl c) ih

theorem blanked_blankBlocks (inComment : Bool) (text : List Char) :
    Blanked text (blankBlocks inComment text) := by
  fun_induction blankBlocks inComment text with
  | case1 => exact .nil
  | case2 rest ih =>
    exact .cons (blankedTo_space (by decide)) (.cons (blankedTo_space (by decide)) ih)
  | case3 c rest _ ih => exact .cons (blankedTo_blank c) ih
  | case4 rest _ ih =>
    exact .cons (blankedTo_space (by decide)) (.cons (blankedTo_space (by decide)) ih)
  | case5 rest _ ih => exact .cons (.refl _) (.cons (.refl _) ih)
  | case6 c rest _ ih => exact .cons (.refl c) ih

theorem blanked_strip (sql : List Char) : Blanked sql (strip sql) :=
  ((blanked_foldLineEnds sql).trans (blanked_blankLines false _)).trans
    (blanked_blankBlocks false _)

theorem getElem?_of_strip {sql : List Char} {i : Nat} {c : Char} (h : (strip sql)[i]? = some c)
    (k : c ≠ ' ') : sql[i]? = some c := by
  obtain ⟨d, hd, hc⟩ := (blanked_strip sql).getElem? h
  rcases hc with rfl | ⟨hs, _⟩
  · exact hd
  · exact absurd hs k

end SchemaText.Sql.Comment
