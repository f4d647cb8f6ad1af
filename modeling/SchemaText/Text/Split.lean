import SchemaText.Text.Character
/-! Texts cut into parts, the ends of lines, and characters that are written twice. -/

namespace SchemaText.Text

def split (separates : Char → Bool) : List Char → List (List Char)
  | [] => [[]]
  | c :: cs =>
    if separates c then [] :: split separates cs
    else (split separates cs).modifyHead (c :: ·)

def located : Nat → List (List Char) → List (Nat × List Char)
  | _, [] => []
  | offset, part :: parts => (offset, part) :: located (offset + part.length + 1) parts

def words (cs : List Char) : List (List Char) :=
  (split isBlank cs).filter (· ≠ [])

theorem split_nil (separates : Char → Bool) : split separates [] = [[]] := rfl

theorem split_cons_of_separates {separates : Char → Bool} {c : Char} (h : separates c)
    (cs : List Char) : split separates (c :: cs) = [] :: split separates cs := by
  simp [split, h]

theorem split_cons_of_not_separates {separates : Char → Bool} {c : Char} (h : ¬ separates c)
    (cs : List Char) :
    split separates (c :: cs) = (split separates cs).modifyHead (c :: ·) := by
  simp [split, h]

theorem split_ne_nil (separates : Char → Bool) (cs : List Char) : split separates cs ≠ [] := by
  cases cs with
  | nil => simp [split]
  | cons c cs =>
    unfold split
    split
    · simp
    · simpa [List.modifyHead_eq_nil_iff] using split_ne_nil separates cs

def lineEndRanges : List (Nat × Nat) :=
  [(10, 13), (28, 30), (133, 133), (8232, 8233)]

def isLineEnd (c : Char) : Bool :=
  within lineEndRanges c.toNat

def foldLineEnds : List Char → List Char
  | [] => []
  | '\r' :: '\n' :: rest => '\n' :: foldLineEnds rest
  | '\r' :: rest => '\n' :: foldLineEnds rest
  | c :: rest => c :: foldLineEnds rest

def double (c : Char) (cs : List Char) : List Char :=
  cs.flatMap fun x => if x = c then [c, c] else [x]

theorem double_cons (c d : Char) (cs : List Char) :
    double c (d :: cs) = (if d = c then [c, c] else [d]) ++ double c cs := rfl

theorem double_append (c : Char) (s t : List Char) :
    double c (s ++ t) = double c s ++ double c t := by
  simp [double]

theorem double_of_not_mem {c : Char} {cs : List Char} (h : c ∉ cs) : double c cs = cs := by
  induction cs with
  | nil => rfl
  | cons d cs ih =>
    obtain ⟨hd, hc⟩ := not_or.1 fun k => h (List.mem_cons.2 k)
    have hne : d ≠ c := fun k => hd k.symm
    rw [double_cons, if_neg hne, ih hc]
    rfl

end SchemaText.Text
