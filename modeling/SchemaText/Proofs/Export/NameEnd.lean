import SchemaText.Export.Compiler
import SchemaText.Proofs.Export.Chain
import SchemaText.Proofs.Text.Trim
/-! Written names tell where they end: before a dot or a space, two names that are written alike are
the same. -/

namespace SchemaText.Export

open Text (Stops takeWhile_append_of_stops)

section Doubled

variable {doubles : Char → Bool} {mark : Char} {xs ys : List Char}

def spread (doubles : Char → Bool) (cs : List Char) : List Char :=
  cs.flatMap fun c => if doubles c then [c, c] else [c]

theorem spread_cons (c : Char) (cs : List Char) :
    spread doubles (c :: cs) = (if doubles c then [c, c] else [c]) ++ spread doubles cs := rfl

theorem spread_unique (hm : doubles mark) {x y : List Char} (hx : x.head? ≠ some mark)
    (hy : y.head? ≠ some mark)
    (h : spread doubles xs ++ mark :: x = spread doubles ys ++ mark :: y) :
    xs = ys ∧ x = y := by
  -- What closes one quotation cannot be a character of the other.
  have hclosed {c : Char} {cs rest more : List Char} (hr : rest.head? ≠ some mark) :
      mark :: rest ≠ spread doubles (c :: cs) ++ more := by
    rw [spread_cons]
    intro he
    split at he
    · obtain ⟨rfl, he⟩ := List.cons.inj he
      exact hr (he ▸ rfl)
    · next hc => exact hc ((List.cons.inj he).1 ▸ hm)
  induction xs generalizing ys with
  | nil =>
    cases ys with
    | nil => exact ⟨rfl, (List.cons.inj h).2⟩
    | cons c ys => exact absurd h (hclosed hx)
  | cons c xs ih =>
    cases ys with
    | nil => exact absurd h.symm (hclosed hy)
    | cons e ys =>
      rw [spread_cons, spread_cons, List.append_assoc, List.append_assoc] at h
      have hhead : c = e := by
        have hh := congrArg List.head? h
        split at hh <;> split at hh <;> simpa using hh
      subst hhead
      obtain ⟨rfl, hrest⟩ := ih (List.append_cancel_left h)
      exact ⟨rfl, hrest⟩

end Doubled

section Told

variable {lib : Library} {d : Dialect} {doubles : Char → Bool} {name other text shown : String}
  {x y : List Char}

/-- A dot or a space stands behind a name. -/
def EndsName (rest : List Char) : Prop :=
  ∃ c ∈ rest.head?, c = '.' ∨ c = ' '

def isInName (c : Char) : Bool :=
  c ≠ '.' && c ≠ ' '

theorem EndsName.stops {rest : List Char} (h : EndsName rest) : Stops isInName rest := by
  intro ch hch
  obtain ⟨c, hc, he⟩ := h
  obtain rfl := Option.some.inj (hch.symm.trans hc)
  rcases he with rfl | rfl <;> decide

theorem EndsName.head_ne_mark {rest : List Char} (h : EndsName rest) (d : Dialect) :
    rest.head? ≠ some d.mark := by
  obtain ⟨c, hc, he⟩ := h
  intro hm
  obtain rfl := Option.some.inj (hm.symm.trans hc)
  rcases he with he | he <;> revert he <;> cases d <;> decide

/-- A name is written as it is, without marks in it, or between marks. -/
structure IsToldText (d : Dialect) (doubles : Char → Bool) (name text : String) : Prop where
  name_ne : name.toList ≠ []
  written : text = name ∧ (∀ c ∈ name.toList, isInName c ∧ c ≠ d.mark) ∨
    text.toList = d.mark :: (spread doubles name.toList ++ [d.mark])

/-- The library doubles the marks in a name, and possibly other characters, where it puts it between
marks. -/
structure Library.TellsNames (lib : Library) (d : Dialect) (doubles : Char → Bool) : Prop where
  mark : doubles d.mark
  quote : ∀ name text, lib.quote d name = .ok text → IsToldText d doubles name text
  quoteSchema : ∀ name text, lib.quoteSchema d name = .ok text → IsToldText d doubles name text

theorem IsToldText.unique (hmark : doubles d.mark) (h : IsToldText d doubles name text)
    (k : IsToldText d doubles other shown) (hx : EndsName x) (hy : EndsName y)
    (he : text.toList ++ x = shown.toList ++ y) : name = other ∧ x = y := by
  obtain ⟨hne, hname⟩ := h
  obtain ⟨hne', hother⟩ := k
  have hfirst {cs rest more : List Char} (hcs : cs ≠ []) (hm : ∀ c ∈ cs, isInName c ∧ c ≠ d.mark) :
      cs ++ rest ≠ d.mark :: more := by
    obtain ⟨c, cs, rfl⟩ := List.exists_cons_of_ne_nil hcs
    intro heq
    exact (hm c List.mem_cons_self).2 (List.cons.inj heq).1
  rcases hname with ⟨rfl, hm⟩ | hname <;> rcases hother with ⟨rfl, hm'⟩ | hother
  · obtain ⟨hs, hd⟩ := takeWhile_append_of_stops (fun c hc => (hm c hc).1) hx.stops
    obtain ⟨hs', hd'⟩ := takeWhile_append_of_stops (fun c hc => (hm' c hc).1) hy.stops
    refine ⟨String.toList_inj.1 ?_, ?_⟩
    · rw [← hs, he, hs']
    · rw [← hd, he, hd']
  · rw [hother] at he
    exact absurd he (hfirst hne hm)
  · rw [hname] at he
    exact absurd he.symm (hfirst hne' hm')
  · rw [hname, hother, List.cons_append, List.cons_append, List.append_assoc,
      List.append_assoc] at he
    obtain ⟨hcs, hrest⟩ := spread_unique hmark (hx.head_ne_mark d) (hy.head_ne_mark d)
      (List.cons.inj he).2
    exact ⟨String.toList_inj.1 hcs, hrest⟩

def writtenSchema (schema : Option String) : Option String :=
  schema.filter fun front => !front.isEmpty

theorem writtenSchema_some (front : String) :
    writtenSchema (some front) = if front.isEmpty then none else some front := by
  unfold writtenSchema
  rw [Option.filter_some]
  cases front.isEmpty <;> rfl

theorem quoteQualified_writtenSchema (lib : Library) (d : Dialect) (schema : Option String)
    (name : String) :
    lib.quoteQualified d (writtenSchema schema) name = lib.quoteQualified d schema name := by
  cases schema with
  | none => rfl
  | some front =>
    rw [writtenSchema_some]
    split
    · next he => simp only [Library.quoteQualified, if_pos he]
    · rfl

theorem quoteQualified_cases {schema : Option String}
    (h : lib.quoteQualified d schema name = .ok text) :
    ∃ last, lib.quote d name = .ok last ∧
      (writtenSchema schema = none ∧ text = last ∨
        ∃ front first, writtenSchema schema = some front ∧ lib.quoteSchema d front = .ok first ∧
          text.toList = first.toList ++ '.' :: last.toList) := by
  unfold Library.quoteQualified at h
  obtain ⟨last, hlast, h⟩ := exists_of_bind h
  refine ⟨last, hlast, ?_⟩
  cases schema with
  | none => exact .inl ⟨rfl, (Except.ok.inj h).symm⟩
  | some front =>
    rw [writtenSchema_some]
    by_cases he : front.isEmpty
    · simp only [if_pos he] at h ⊢
      exact .inl ⟨trivial, (Except.ok.inj h).symm⟩
    · simp only [if_neg he] at h ⊢
      obtain ⟨first, hfirst, h⟩ := exists_of_bind h
      obtain rfl := Except.ok.inj h
      exact .inr ⟨front, first, rfl, hfirst, by simp⟩

theorem Library.TellsNames.quoteQualified_unique (hl : lib.TellsNames d doubles)
    {schema front : Option String} (h : lib.quoteQualified d schema name = .ok text)
    (k : lib.quoteQualified d front other = .ok shown)
    (he : text.toList ++ ' ' :: x = shown.toList ++ ' ' :: y) :
    writtenSchema schema = writtenSchema front ∧ name = other := by
  have hspace (rest : List Char) : EndsName (' ' :: rest) := ⟨' ', rfl, .inr rfl⟩
  have hdot (rest : List Char) : EndsName ('.' :: rest) := ⟨'.', rfl, .inl rfl⟩
  have happart {rest more : List Char} : ' ' :: rest ≠ '.' :: more := by simp
  obtain ⟨last, hlast, hl₁⟩ := quoteQualified_cases h
  obtain ⟨last', hlast', hl₂⟩ := quoteQualified_cases k
  have hlast := hl.quote _ _ hlast
  have hlast' := hl.quote _ _ hlast'
  rcases hl₁ with ⟨hs, rfl⟩ | ⟨s, first, hs, hfirst, ht⟩ <;>
    rcases hl₂ with ⟨hf, rfl⟩ | ⟨f, first', hf, hfirst', hsh⟩
  · exact ⟨hs.trans hf.symm, (hlast.unique hl.mark hlast' (hspace x) (hspace y) he).1⟩
  · have hfirst' := hl.quoteSchema _ _ hfirst'
    rw [hsh, List.append_assoc] at he
    exact absurd (hlast.unique hl.mark hfirst' (hspace x) (hdot _) he).2 happart
  · have hfirst := hl.quoteSchema _ _ hfirst
    rw [ht, List.append_assoc] at he
    exact absurd (hfirst.unique hl.mark hlast' (hdot _) (hspace y) he).2.symm happart
  · have hfirst := hl.quoteSchema _ _ hfirst
    have hfirst' := hl.quoteSchema _ _ hfirst'
    rw [ht, hsh, List.append_assoc, List.append_assoc] at he
    obtain ⟨rfl, hrest⟩ := hfirst.unique hl.mark hfirst' (hdot _) (hdot _) he
    have hnames := hlast.unique hl.mark hlast' (hspace x) (hspace y) (List.cons.inj hrest).2
    exact ⟨hs.trans hf.symm, hnames.1⟩

end Told

section Compiler

variable {d : Dialect} {name text : String}

/-- The characters that a quoted name holds twice. -/
def Dialect.doubles (d : Dialect) (c : Char) : Bool :=
  c == d.mark || d.doublesEscapes && c == '%'

theorem double_spread (d : Dialect) (cs : List Char) :
    (if d.doublesEscapes then Text.double '%' (Text.double d.mark cs)
      else Text.double d.mark cs) = spread d.doubles cs := by
  have hmark : d.mark ≠ '%' := by cases d <;> decide
  induction cs with
  | nil => cases d <;> rfl
  | cons c cs ih =>
    rw [spread_cons, ← ih, Text.double_cons]
    unfold Dialect.doubles
    cases d.doublesEscapes with
    | false => by_cases hc : c = d.mark <;> simp [hc]
    | true =>
      simp only [if_true, Text.double_append, Bool.true_and]
      congr 1
      by_cases hc : c = d.mark
      · simp [hc, Text.double, hmark]
      · by_cases hp : c = '%' <;> simp [hc, hp, Text.double, hmark.symm]

theorem enclose_eq_spread (d : Dialect) (cs : List Char) :
    d.enclose cs = d.mark :: (spread d.doubles cs ++ [d.mark]) := by
  rw [← double_spread]
  rfl

theorem isInName_of_isRegular {c : Char} (h : isRegular c) (d : Dialect) :
    isInName c ∧ c ≠ d.mark := by
  have hne {x : Char} (hx : isRegular x = false) : c ≠ x := by
    rintro rfl
    rw [h] at hx
    cases hx
  refine ⟨by simp [isInName, hne (x := '.') (by decide), hne (x := ' ') (by decide)], hne ?_⟩
  cases d <;> decide

theorem isInName_of_isRegularName {cs : List Char} (h : isRegularName cs) {c : Char} (hc : c ∈ cs)
    (d : Dialect) : isInName c ∧ c ≠ d.mark := by
  unfold isRegularName at h
  split at h
  · next hl =>
    have hcs := List.dropLast_append_getLast? _ hl
    rw [← hcs] at hc
    rcases List.mem_append.1 hc with hc | hc
    · exact isInName_of_isRegular (List.all_eq_true.1 (Bool.and_eq_true_iff.1 h).2 c hc) d
    · rw [List.mem_singleton.1 hc]
      cases d <;> decide
  · exact isInName_of_isRegular (List.all_eq_true.1 (Bool.and_eq_true_iff.1 h).2 c hc) d

theorem isToldText_of_quoteName (h : d.quoteName name = .ok text) :
    IsToldText d d.doubles name text := by
  unfold Dialect.quoteName at h
  split at h
  · cases h
  · next first rest hcs =>
    refine ⟨by simp [hcs], ?_⟩
    obtain rfl := Except.ok.inj h
    split
    · exact .inr (by rw [String.toList_ofList, enclose_eq_spread, hcs])
    · next hn =>
      refine .inl ⟨rfl, fun c hc => isInName_of_isRegularName ?_ (hcs ▸ hc) d⟩
      by_contra hr
      exact hn (by simp [Dialect.needsQuotes, hr])

theorem compiler_tellsNames (d : Dialect) : compiler.TellsNames d d.doubles where
  mark := by simp [Dialect.doubles]
  quote _ _ := isToldText_of_quoteName
  quoteSchema _ _ := isToldText_of_quoteName

end Compiler

end SchemaText.Export
