import SchemaText.Text.Character
/-! Places in a text that is being read. -/

namespace SchemaText.Diagram

/-- A place in a text: the characters still to be read and the number of those before them. A place
past the end of the text has an `overrun`, which is lost as soon as a run of characters is read. -/
structure Cursor where
  offset : Nat
  rest : List Char
  overrun : Nat := 0
  deriving Repr, DecidableEq

namespace Cursor

def ofPosition (text : List Char) (position : Nat) : Cursor :=
  ⟨min position text.length, text.drop position, position - text.length⟩

def position (c : Cursor) : Nat :=
  c.offset + c.overrun

def atEnd (c : Cursor) : Bool :=
  c.rest.isEmpty

def peek (c : Cursor) : Option Char :=
  c.rest.head?

def stopsAt (mark : Char) (c : Cursor) : Bool :=
  c.atEnd || c.peek == some mark

def next (c : Cursor) : Cursor :=
  match c.rest with
  | [] => ⟨c.offset, [], c.overrun + 1⟩
  | _ :: rest => ⟨c.offset + 1, rest, c.overrun⟩

def advanceTo (c d : Cursor) : Cursor :=
  if c.offset < d.offset then d else c.next

def takeWhile (accepts : Char → Bool) (c : Cursor) : List Char × Cursor :=
  let run := c.rest.takeWhile accepts
  (run, ⟨c.offset + run.length, c.rest.dropWhile accepts, 0⟩)

def skipWhile (accepts : Char → Bool) (c : Cursor) : Cursor :=
  (c.takeWhile accepts).2

def eat (mark : Char) (c : Cursor) : Cursor :=
  if c.peek == some mark then c.next else c

def skipBlank (c : Cursor) : Cursor :=
  c.skipWhile Text.isBlank

def skipInline (c : Cursor) : Cursor :=
  c.skipWhile fun ch => ch == ' ' || ch == '\t'

def skipLine (c : Cursor) : Cursor :=
  (c.skipWhile (· ≠ '\n')).eat '\n'

def skipEntry (c : Cursor) : Cursor :=
  (c.skipWhile fun ch => ch ≠ '\n' && ch ≠ '}').eat '\n'

def skipSetting (c : Cursor) : Cursor :=
  c.skipWhile fun ch => ch ≠ ',' && ch ≠ ']'

def skipOptional (mark : Char) (c : Cursor) : Cursor :=
  let c := c.skipBlank
  if c.peek == some mark then c.next.skipBlank else c

def isComment (c : Cursor) : Bool :=
  ['/', '/'].isPrefixOf c.rest

def keyword (c : Cursor) : String :=
  String.ofList (c.rest.takeWhile Char.isAlpha)

def skipKeyword (c : Cursor) : Cursor :=
  c.skipWhile Char.isAlpha

def textTo (c d : Cursor) : List Char :=
  c.rest.take (d.offset - c.offset)

def Reaches (c d : Cursor) : Prop :=
  ∃ taken, c.rest = taken ++ d.rest ∧ d.offset = c.offset + taken.length

def Passes (c d : Cursor) : Prop :=
  ∃ taken, taken ≠ [] ∧ c.rest = taken ++ d.rest ∧ d.offset = c.offset + taken.length

theorem Reaches.refl (c : Cursor) : c.Reaches c :=
  ⟨[], rfl, rfl⟩

theorem Reaches.trans {c d e : Cursor} (h : c.Reaches d) (k : d.Reaches e) : c.Reaches e := by
  obtain ⟨s, hs, ho⟩ := h
  obtain ⟨t, ht, hp⟩ := k
  exact ⟨s ++ t, by simp [hs, ht], by simp [ho, hp, Nat.add_assoc]⟩

theorem Reaches.length_le {c d : Cursor} (h : c.Reaches d) : d.rest.length ≤ c.rest.length := by
  obtain ⟨s, hs, _⟩ := h
  simp [hs]

theorem Reaches.offset_le {c d : Cursor} (h : c.Reaches d) : c.offset ≤ d.offset := by
  obtain ⟨s, _, ho⟩ := h
  omega

theorem Reaches.offset_add_length {c d : Cursor} (h : c.Reaches d) :
    d.offset + d.rest.length = c.offset + c.rest.length := by
  obtain ⟨s, hs, ho⟩ := h
  simp [hs, ho, Nat.add_assoc]

theorem Passes.reaches {c d : Cursor} (h : c.Passes d) : c.Reaches d := by
  obtain ⟨s, _, hs, ho⟩ := h
  exact ⟨s, hs, ho⟩

theorem Passes.length_lt {c d : Cursor} (h : c.Passes d) : d.rest.length < c.rest.length := by
  obtain ⟨s, hne, hs, _⟩ := h
  have : 0 < s.length := List.length_pos_iff.2 hne
  simp only [hs, List.length_append]
  omega

theorem Passes.trans_reaches {c d e : Cursor} (h : c.Passes d) (k : d.Reaches e) :
    c.Passes e := by
  obtain ⟨s, hne, hs, ho⟩ := h
  obtain ⟨t, ht, hp⟩ := k
  exact ⟨s ++ t, by simp [hne], by simp [hs, ht], by simp [ho, hp, Nat.add_assoc]⟩

theorem Reaches.trans_passes {c d e : Cursor} (h : c.Reaches d) (k : d.Passes e) :
    c.Passes e := by
  obtain ⟨s, hs, ho⟩ := h
  obtain ⟨t, hne, ht, hp⟩ := k
  exact ⟨s ++ t, by simp [hne], by simp [hs, ht], by simp [ho, hp, Nat.add_assoc]⟩

theorem Reaches.passes_of_offset_lt {c d : Cursor} (h : c.Reaches d) (k : c.offset < d.offset) :
    c.Passes d := by
  obtain ⟨s, hs, ho⟩ := h
  refine ⟨s, ?_, hs, ho⟩
  intro hs'
  simp [hs'] at ho
  omega

theorem Reaches.rest_eq_or_passes {c d : Cursor} (h : c.Reaches d) :
    d.rest = c.rest ∨ c.Passes d := by
  obtain ⟨s, hs, ho⟩ := h
  cases s with
  | nil => exact .inl (by simpa using hs.symm)
  | cons ch s => exact .inr ⟨ch :: s, by simp, hs, ho⟩

theorem peek_eq_some_iff {c : Cursor} {ch : Char} :
    c.peek = some ch ↔ ∃ rest, c.rest = ch :: rest := by
  cases h : c.rest <;> simp [peek, h]

theorem atEnd_iff {c : Cursor} : c.atEnd = true ↔ c.rest = [] :=
  List.isEmpty_iff

theorem rest_ne_nil_of_stopsAt_eq_false {c : Cursor} {mark : Char}
    (h : c.stopsAt mark = false) : c.rest ≠ [] := by
  intro hr
  simp [stopsAt, atEnd, hr] at h

theorem reaches_next (c : Cursor) : c.Reaches c.next := by
  unfold next
  split
  · next h => exact ⟨[], by simpa using h, rfl⟩
  · next ch rest h => exact ⟨[ch], by simpa using h, rfl⟩

theorem passes_next {c : Cursor} (h : c.rest ≠ []) : c.Passes c.next := by
  unfold next
  split
  · next k => exact absurd k h
  · next ch rest k => exact ⟨[ch], by simp, by simpa using k, rfl⟩

theorem reaches_takeWhile (accepts : Char → Bool) (c : Cursor) :
    c.Reaches (c.takeWhile accepts).2 :=
  ⟨c.rest.takeWhile accepts, by simp [takeWhile], rfl⟩

theorem reaches_skipWhile (accepts : Char → Bool) (c : Cursor) :
    c.Reaches (c.skipWhile accepts) :=
  reaches_takeWhile accepts c

theorem passes_skipWhile {accepts : Char → Bool} {c : Cursor} {ch : Char} {rest : List Char}
    (h : c.rest = ch :: rest) (k : accepts ch) : c.Passes (c.skipWhile accepts) :=
  ⟨c.rest.takeWhile accepts, by simp [h, k], by simp [skipWhile, takeWhile], rfl⟩

theorem reaches_eat (mark : Char) (c : Cursor) : c.Reaches (c.eat mark) := by
  unfold eat
  split
  · exact reaches_next c
  · exact Reaches.refl c

theorem passes_eat {c : Cursor} {mark : Char} (h : c.peek = some mark) : c.Passes (c.eat mark) := by
  obtain ⟨rest, hr⟩ := peek_eq_some_iff.1 h
  simpa [eat, h] using passes_next (c := c) (by simp [hr])

theorem reaches_skipBlank (c : Cursor) : c.Reaches c.skipBlank :=
  reaches_skipWhile _ c

theorem reaches_skipInline (c : Cursor) : c.Reaches c.skipInline :=
  reaches_skipWhile _ c

theorem reaches_skipKeyword (c : Cursor) : c.Reaches c.skipKeyword :=
  reaches_skipWhile _ c

theorem reaches_skipSetting (c : Cursor) : c.Reaches c.skipSetting :=
  reaches_skipWhile _ c

theorem reaches_skipLine (c : Cursor) : c.Reaches c.skipLine :=
  (reaches_skipWhile _ c).trans (reaches_eat _ _)

theorem reaches_skipEntry (c : Cursor) : c.Reaches c.skipEntry :=
  (reaches_skipWhile _ c).trans (reaches_eat _ _)

theorem reaches_skipOptional (mark : Char) (c : Cursor) : c.Reaches (c.skipOptional mark) := by
  unfold skipOptional
  dsimp only
  split
  · exact (reaches_skipBlank c).trans ((reaches_next _).trans (reaches_skipBlank _))
  · exact reaches_skipBlank c

theorem Reaches.advanceTo {c d : Cursor} (h : c.Reaches d) (k : c.rest ≠ []) :
    c.Passes (c.advanceTo d) := by
  unfold Cursor.advanceTo
  split
  · next hlt => exact h.passes_of_offset_lt hlt
  · exact passes_next k

theorem reaches_advanceTo {c d : Cursor} (h : c.Reaches d) : c.Reaches (c.advanceTo d) := by
  unfold Cursor.advanceTo
  split
  · exact h
  · exact reaches_next c

end Cursor

end SchemaText.Diagram
