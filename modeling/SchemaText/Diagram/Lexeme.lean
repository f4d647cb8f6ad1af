import SchemaText.Diagram.Cursor
/-! The smallest parts of the notation: names, types, values and lists of names. -/

namespace SchemaText.Diagram

def isMark (c : Char) : Bool :=
  c == '"' || c == '\'' || c == '`'

def isBare (c : Char) : Bool :=
  c.isAlphanum || c == '_' || c == '.'

namespace Cursor

def readQuoted (mark : Char) (c : Cursor) : List Char × Cursor :=
  let content := c.takeWhile (· ≠ mark)
  (content.1, content.2.eat mark)

def readEnclosed? (c : Cursor) : Option (List Char × Cursor) :=
  c.peek.map fun mark => c.next.readQuoted mark

def mark? (c : Cursor) : Option Char :=
  c.peek.filter isMark

/-- Reads a quoted or a bare name; a bare one can be empty and can hold dots. -/
def readName (c : Cursor) : List Char × Cursor :=
  match c.mark? with
  | some mark => c.next.readQuoted mark
  | none => c.takeWhile isBare

theorem reaches_readQuoted (mark : Char) (c : Cursor) : c.Reaches (c.readQuoted mark).2 :=
  (reaches_takeWhile _ c).trans (reaches_eat _ _)

theorem rest_ne_nil_of_mark? {c : Cursor} {mark : Char} (h : c.mark? = some mark) :
    c.rest ≠ [] := by
  intro hr
  simp [mark?, peek, hr] at h

theorem reaches_readName (c : Cursor) : c.Reaches c.readName.2 := by
  unfold readName
  split
  · exact (reaches_next c).trans (reaches_readQuoted _ _)
  · exact reaches_takeWhile _ c

theorem passes_readName_of_mark? {c : Cursor} {mark : Char} (h : c.mark? = some mark) :
    c.Passes c.readName.2 := by
  simp only [readName, h]
  exact (passes_next (rest_ne_nil_of_mark? h)).trans_reaches (reaches_readQuoted _ _)

theorem passes_readName_of_ne_nil {c : Cursor} (h : c.readName.1 ≠ []) :
    c.Passes c.readName.2 := by
  cases hm : c.mark? with
  | some mark => exact passes_readName_of_mark? hm
  | none =>
    simp only [readName, hm] at h ⊢
    exact ⟨_, h, by simp [takeWhile], rfl⟩

def continues (c : Cursor) : Bool :=
  match c.peek with
  | some ch => !Text.isBlank ch
  | none => false

def endsInDot (cs : List Char) : Bool :=
  cs.getLast? == some '.'

/-- Reads the parts of a dotted name that follow its first one, the dots between them included. A
quoted part may follow a bare part that ends in a dot, so `dotted` tells whether the name so far
does. -/
def readNameTail (dotted : Bool) (c : Cursor) : List Char × Cursor :=
  if _ : c.peek = some '.' then
    if c.next.continues then
      let part := c.next.readName
      let tail := part.2.readNameTail (endsInDot ('.' :: part.1))
      ('.' :: part.1 ++ tail.1, tail.2)
    else (['.'], c.next)
  else if _ : dotted && c.mark?.isSome then
    let part := c.readName
    let tail := part.2.readNameTail (endsInDot ('.' :: part.1))
    (part.1 ++ tail.1, tail.2)
  else ([], c)
termination_by c.rest.length
decreasing_by
  · obtain ⟨rest, h⟩ := peek_eq_some_iff.1 ‹c.peek = some '.'›
    exact ((passes_next (by simp [h])).trans_reaches (reaches_readName _)).length_lt
  · obtain ⟨mark, h⟩ := Option.isSome_iff_exists.1 (Bool.and_eq_true_iff.1 ‹_›).2
    exact (passes_readName_of_mark? h).length_lt

def readQualifiedName (c : Cursor) : List Char × Cursor :=
  let first := c.readName
  let tail := first.2.readNameTail (endsInDot first.1)
  (first.1 ++ tail.1, tail.2)

theorem reaches_readNameTail (dotted : Bool) (c : Cursor) :
    c.Reaches (c.readNameTail dotted).2 := by
  fun_induction readNameTail dotted c with
  | case1 dotted c hd hc part tail ih =>
    exact (reaches_next c).trans ((reaches_readName _).trans ih)
  | case2 dotted c hd hc => exact reaches_next c
  | case3 dotted c hd hm part tail ih => exact (reaches_readName c).trans ih
  | case4 dotted c hd hm => exact Reaches.refl c

theorem reaches_readQualifiedName (c : Cursor) : c.Reaches c.readQualifiedName.2 :=
  (reaches_readName c).trans (reaches_readNameTail _ _)

/-- Where an argument list ends that has `depth` open parentheses: after the one that closes the
first, or before the end of the line. Quoted texts are stepped over. -/
def argumentsEnd (depth : Int) (c : Cursor) : Cursor :=
  match hc : c.peek with
  | none => c
  | some ch =>
    if isMark ch then (c.next.readQuoted ch).2.argumentsEnd depth
    else if ch = '(' then c.next.argumentsEnd (depth + 1)
    else if ch = ')' then
      if depth = 1 then c.next else c.next.argumentsEnd (depth - 1)
    else if ch = '\n' then c
    else c.next.argumentsEnd depth
termination_by c.rest.length
decreasing_by
  all_goals
    obtain ⟨rest, h⟩ := peek_eq_some_iff.1 hc
    have hn : c.Passes c.next := passes_next (by simp [h])
  · exact (hn.trans_reaches (reaches_readQuoted _ _)).length_lt
  all_goals exact hn.length_lt

def readArguments (c : Cursor) : List Char × Cursor :=
  let d := c.argumentsEnd 0
  (c.textTo d, d)

theorem reaches_argumentsEnd (depth : Int) (c : Cursor) : c.Reaches (c.argumentsEnd depth) := by
  fun_induction argumentsEnd depth c with
  | case1 | case6 => exact Reaches.refl _
  | case2 _ c ch _ _ ih =>
    exact (reaches_next c).trans ((reaches_readQuoted _ _).trans ih)
  | case3 _ c _ _ ih => exact (reaches_next c).trans ih
  | case4 c => exact reaches_next c
  | case5 _ c _ _ _ _ ih => exact (reaches_next c).trans ih
  | case7 _ c _ _ _ _ _ _ ih => exact (reaches_next c).trans ih

theorem reaches_readArguments (c : Cursor) : c.Reaches c.readArguments.2 :=
  reaches_argumentsEnd 0 c

def readListItem (c : Cursor) : List Char × Cursor :=
  let name := c.skipInline.readName
  (name.1, (name.2.skipWhile fun ch => ch ≠ ',' && ch ≠ ')' && ch ≠ '\n').eat ',')

theorem reaches_readListItem (c : Cursor) : c.Reaches c.readListItem.2 :=
  (reaches_skipInline c).trans
    ((reaches_readName _).trans ((reaches_skipWhile _ _).trans (reaches_eat _ _)))

theorem passes_readListItem {c : Cursor} {ch : Char} (h : c.peek = some ch) (hp : ch ≠ ')')
    (hn : ch ≠ '\n') : c.Passes c.readListItem.2 := by
  have hr := (reaches_skipInline c).trans (reaches_readName _)
  refine hr.rest_eq_or_passes.elim (fun k => ?_) fun k =>
    k.trans_reaches ((reaches_skipWhile _ _).trans (reaches_eat _ _))
  obtain ⟨rest, hc⟩ := peek_eq_some_iff.1 h
  refine hr.trans_passes ?_
  by_cases hcomma : ch = ','
  · refine (reaches_skipWhile _ _).trans_passes (passes_eat ?_)
    simp [skipWhile, takeWhile, peek, k, hc, hcomma]
  · exact (passes_skipWhile (k.trans hc) (by simp [hp, hn, hcomma])).trans_reaches
      (reaches_eat _ _)

def readListItems (c : Cursor) : List (List Char) × Cursor :=
  match _ : c.peek with
  | none => ([], c)
  | some ch =>
    if ch = ')' then ([], c.next)
    else if ch = '\n' then ([], c)
    else
      let item := c.readListItem
      let items := item.2.readListItems
      (if item.1 = [] then items.1 else item.1 :: items.1, items.2)
termination_by c.rest.length
decreasing_by exact (passes_readListItem ‹_› ‹_› ‹_›).length_lt

def readNameList (c : Cursor) : List (List Char) × Cursor :=
  c.next.readListItems

theorem reaches_readListItems (c : Cursor) : c.Reaches c.readListItems.2 := by
  fun_induction readListItems c with
  | case1 | case3 => exact Reaches.refl _
  | case2 => exact reaches_next _
  | case4 c ch _ _ _ item items ih => exact (reaches_readListItem c).trans ih

theorem reaches_readNameList (c : Cursor) : c.Reaches c.readNameList.2 :=
  (reaches_next c).trans (reaches_readListItems _)

def readType (c : Cursor) : List Char × Cursor :=
  let name := c.readName
  if c.mark?.isNone && !name.1.isEmpty && name.2.peek == some '(' then
    let arguments := name.2.readArguments
    (name.1 ++ arguments.1, arguments.2)
  else name

theorem reaches_readType (c : Cursor) : c.Reaches c.readType.2 := by
  unfold readType
  dsimp only
  split
  · exact (reaches_readName c).trans (reaches_readArguments _)
  · exact reaches_readName c

/-- Reads a quoted text, or an unquoted one without the blanks around it, which ends before a
comma, a closing bracket or brace, or the end of the line. -/
def readValue (c : Cursor) : List Char × Cursor :=
  let c := c.skipBlank
  match c.mark? with
  | some mark => c.next.readQuoted mark
  | none =>
    let run := c.takeWhile fun ch => ch ≠ ',' && ch ≠ ']' && ch ≠ '\n' && ch ≠ '}'
    (Text.trim run.1, run.2)

theorem reaches_readValue (c : Cursor) : c.Reaches c.readValue.2 := by
  unfold readValue
  dsimp only
  split
  · exact (reaches_skipBlank c).trans ((reaches_next _).trans (reaches_readQuoted _ _))
  · exact (reaches_skipBlank c).trans (reaches_takeWhile _ _)

end Cursor

end SchemaText.Diagram
