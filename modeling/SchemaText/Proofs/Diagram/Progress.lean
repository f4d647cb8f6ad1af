import SchemaText.Proofs.Diagram.Rounds
import SchemaText.Proofs.Diagram.Tiling
/-! Every reader goes forward in its text and stays within it, from whatever place it starts. -/

namespace SchemaText.Diagram

open Cursor (ofPosition)

namespace Cursor

section Quotations

variable {c : Cursor} {mark : Char} {quoted : List Char × Cursor}

theorem readEnclosed?_of_peek (h : c.peek = some mark) :
    c.readEnclosed? = some (c.next.readQuoted mark) := by
  rw [readEnclosed?, h]
  rfl

theorem passes_readEnclosed? (h : c.readEnclosed? = some quoted) : c.Passes quoted.2 := by
  obtain ⟨mark, hm, rfl⟩ := Option.map_eq_some_iff.1 h
  obtain ⟨rest, hr⟩ := peek_eq_some_iff.1 hm
  exact (passes_next (by simp [hr])).trans_reaches (reaches_readQuoted _ _)

theorem peek_of_mark? (h : c.mark? = some mark) : c.peek = some mark :=
  (Option.filter_eq_some_iff.1 h).1

def readName? (c : Cursor) : Option (List Char × Cursor) :=
  if c.mark?.isSome then c.readEnclosed? else some (c.takeWhile isBare)

/-- Reads a value, and fails if a quotation would be read at the end of the text. -/
def readValue? (c : Cursor) : Option (List Char × Cursor) :=
  let c := c.skipBlank
  if c.mark?.isSome then c.readEnclosed?
  else
    let run := c.takeWhile fun ch => ch ≠ ',' && ch ≠ ']' && ch ≠ '\n' && ch ≠ '}'
    some (Text.trim run.1, run.2)

/-- Where an argument list ends, unless a quotation in it would be read at the end of the text. -/
def argumentsEnd? (depth : Int) (c : Cursor) : Option Cursor :=
  match hc : c.peek with
  | none => some c
  | some ch =>
    if isMark ch then
      match _ : c.readEnclosed? with
      | none => none
      | some quoted => quoted.2.argumentsEnd? depth
    else if ch = '(' then c.next.argumentsEnd? (depth + 1)
    else if ch = ')' then
      if depth = 1 then some c.next else c.next.argumentsEnd? (depth - 1)
    else if ch = '\n' then some c
    else c.next.argumentsEnd? depth
termination_by c.rest.length
decreasing_by
  · exact (passes_readEnclosed? ‹_›).length_lt
  all_goals
    obtain ⟨rest, h⟩ := peek_eq_some_iff.1 hc
    exact (passes_next (by simp [h])).length_lt

/-- Reads a type, and fails if a quotation would be read at the end of the text. -/
def readType? (c : Cursor) : Option (List Char × Cursor) := do
  let name ← c.readName?
  if c.mark?.isNone && !name.1.isEmpty && name.2.peek == some '(' then
    let d ← name.2.argumentsEnd? 0
    return (name.1 ++ name.2.textTo d, d)
  else return name

theorem readName?_eq (c : Cursor) : c.readName? = some c.readName := by
  unfold readName? readName
  cases hm : c.mark? with
  | none => rfl
  | some mark => exact readEnclosed?_of_peek (peek_of_mark? hm)

theorem readValue?_eq (c : Cursor) : c.readValue? = some c.readValue := by
  unfold readValue? readValue
  cases hm : c.skipBlank.mark? with
  | none =>
    simp only [hm]
    rfl
  | some mark =>
    simp only [hm]
    exact readEnclosed?_of_peek (peek_of_mark? hm)

theorem argumentsEnd?_of_peek (h : c.peek = some mark) (depth : Int) :
    c.argumentsEnd? depth =
      if isMark mark then c.readEnclosed?.bind fun quoted => quoted.2.argumentsEnd? depth
      else if mark = '(' then c.next.argumentsEnd? (depth + 1)
      else if mark = ')' then
        if depth = 1 then some c.next else c.next.argumentsEnd? (depth - 1)
      else if mark = '\n' then some c
      else c.next.argumentsEnd? depth := by
  rw [argumentsEnd?]
  split
  · next hc => cases hc.symm.trans h
  · next ch hc =>
    obtain rfl := Option.some.inj (hc.symm.trans h)
    rw [readEnclosed?_of_peek h]
    rfl

theorem argumentsEnd?_eq (depth : Int) (c : Cursor) :
    c.argumentsEnd? depth = some (c.argumentsEnd depth) := by
  fun_induction argumentsEnd depth c with
  | case1 depth c hc =>
    rw [argumentsEnd?]
    split
    · rfl
    · next h => cases h.symm.trans hc
  | case2 depth c ch hc hm ih =>
    rw [argumentsEnd?_of_peek hc, if_pos hm, readEnclosed?_of_peek hc]
    exact ih
  | case3 depth c hc hm ih => rw [argumentsEnd?_of_peek hc, if_neg hm, if_pos rfl, ih]
  | case4 c hc hm ho => rw [argumentsEnd?_of_peek hc, if_neg hm, if_neg ho, if_pos rfl, if_pos rfl]
  | case5 depth c hd hc hm ho ih =>
    rw [argumentsEnd?_of_peek hc, if_neg hm, if_neg ho, if_pos rfl, if_neg hd, ih]
  | case6 depth c hc hm ho hp =>
    rw [argumentsEnd?_of_peek hc, if_neg hm, if_neg ho, if_neg hp, if_pos rfl]
  | case7 depth c ch hc hm ho hp hl ih =>
    rw [argumentsEnd?_of_peek hc, if_neg hm, if_neg ho, if_neg hp, if_neg hl, ih]

theorem readType?_eq (c : Cursor) : c.readType? = some c.readType := by
  rw [readType?, readName?_eq, readType]
  simp only [Option.bind_eq_bind, Option.bind_some, argumentsEnd?_eq, readArguments]
  split <;> rfl

end Quotations

section Ends

variable {c : Cursor}

theorem overrun_skipEntry (c : Cursor) : c.skipEntry.overrun = 0 :=
  overrun_eat _ rfl

theorem overrun_readColumn (c : Cursor) : c.readColumn.next.overrun = 0 := by
  unfold readColumn
  dsimp only
  split <;> exact overrun_skipEntry _

theorem overrun_readIndex (c : Cursor) : c.readIndex.next.overrun = 0 := by
  unfold readIndex
  dsimp only
  split <;> exact overrun_skipEntry _

theorem overrun_readIndexEntries (h : c.overrun = 0) : c.readIndexEntries.next.overrun = 0 := by
  fun_induction readIndexEntries c with
  | case1 => exact h
  | case2 => rfl
  | case3 c _ _ entry entries ih =>
    refine ih ?_
    show c.skipBlank.readIndexEntry.next.overrun = 0
    unfold readIndexEntry
    split
    · exact overrun_skipLine _
    · exact overrun_readIndex _

theorem overrun_readIndexBlock (h : c.isIndexBlock) : c.readIndexBlock.next.overrun = 0 := by
  have hopen : c.skipKeyword.skipBlank.peek = some '{' := by
    simpa using (Bool.and_eq_true_iff.1 h).2
  exact overrun_eat _ (overrun_readIndexEntries (overrun_next_of_peek rfl hopen))

theorem reaches_skipKeyword_readIndexBlock (c : Cursor) :
    c.skipKeyword.Reaches c.readIndexBlock.next :=
  (reaches_skipBlank c.skipKeyword).trans ((reaches_next _).trans
    ((reaches_readIndexEntries _).trans (reaches_eat _ _)))

theorem overrun_readAttributeList (h : c.overrun = 0) :
    c.readAttributeList.next.overrun = 0 := by
  have hlist := overrun_readAttributes h
  unfold readAttributeList
  dsimp only
  split
  · next hp => exact overrun_next_of_peek hlist hp
  · exact hlist

theorem overrun_argumentsEnd (depth : Int) (h : c.overrun = 0) :
    (c.argumentsEnd depth).overrun = 0 := by
  fun_induction argumentsEnd depth c with
  | case1 => exact h
  | case2 depth c ch hc _ ih => exact ih (overrun_eat _ rfl)
  | case3 depth c hc _ ih => exact ih (overrun_next_of_peek h hc)
  | case4 c hc => exact overrun_next_of_peek h hc
  | case5 depth c hd hc _ _ ih => exact ih (overrun_next_of_peek h hc)
  | case6 => exact h
  | case7 depth c ch hc _ _ _ _ ih => exact ih (overrun_next_of_peek h hc)

theorem overrun_readListItems (h : c.overrun = 0) : c.readListItems.2.overrun = 0 := by
  fun_induction readListItems c with
  | case1 | case3 => exact h
  | case2 c hc => exact overrun_next_of_peek h hc
  | case4 c ch hc _ _ item items ih => exact ih (overrun_eat _ rfl)

end Ends

section Ranges

variable {text : List Char} {p : Nat} {c : Cursor}

def InRange (text : List Char) (p : Nat) (c : Cursor) : Prop :=
  ∃ q, p ≤ q ∧ q ≤ text.length ∧ c = ofPosition text q

theorem inRange_of_reaches (hp : p ≤ text.length) (h : (ofPosition text p).Reaches c)
    (k : c.overrun = 0) : c.InRange text p := by
  have hwithin := (within_ofPosition hp).of_reaches h k
  have hle : min p text.length ≤ c.offset := h.offset_le
  exact ⟨c.offset, by omega, hwithin.offset_le, hwithin.eq_ofPosition.symm⟩

theorem inRange_of_passes (hp : p < text.length) (h : (ofPosition text p).Passes c)
    (k : c.overrun = 0) : c.InRange text (p + 1) := by
  have hwithin := (within_ofPosition (Nat.le_of_lt hp)).of_reaches h.reaches k
  have hlt : min p text.length < c.offset := h.offset_lt
  exact ⟨c.offset, by omega, hwithin.offset_le, hwithin.eq_ofPosition.symm⟩

theorem offset_skipKeyword (c : Cursor) :
    c.skipKeyword.offset = c.offset + c.keyword.length := by
  rw [keyword, String.length_ofList]
  rfl

theorem rest_ofPosition_ne_nil (hp : p < text.length) : (ofPosition text p).rest ≠ [] := by
  intro h
  have := List.drop_eq_nil_iff.1 h
  omega

theorem inRange_of_keyword (hp : p ≤ text.length)
    (h : (ofPosition text p).skipKeyword.Reaches c) (k : c.overrun = 0) :
    c.InRange text (p + (ofPosition text p).keyword.length) := by
  have hwithin := (within_ofPosition hp).of_reaches ((reaches_skipKeyword _).trans h) k
  have hle := h.offset_le
  rw [offset_skipKeyword, show (ofPosition text p).offset = p from Nat.min_eq_left hp] at hle
  exact ⟨c.offset, hle, hwithin.offset_le, hwithin.eq_ofPosition.symm⟩

end Ranges

end Cursor

section Offsets

variable {text : List Char} {p : Nat} {c : Cursor}

theorem Tiles.start_le {stretches : List Stretch} (h : Tiles text p stretches) :
    p ≤ text.length := by
  induction h with
  | nil => exact Nat.le_refl _
  | cons _ k _ ih => omega

theorem Tiles.start_le_of_mem {stretches : List Stretch} (h : Tiles text p stretches) :
    ∀ s ∈ stretches, s.start ≤ text.length := by
  induction h with
  | nil => simp
  | cons h k rest ih => exact List.forall_mem_cons.2 ⟨(Tiles.cons h k rest).start_le, ih⟩

theorem Fits.offset_of_mem_repeatReport {s : Stretch} {segment : Segment} {ids : List String}
    {d : Diagnostic} (h : Fits text s) (hs : s.segment = some segment)
    (hd : d ∈ segment.repeatReport ids) : d.offset = s.start := by
  cases h with
  | blank => cases hs
  | @table p q t list _ _ =>
    cases hs
    cases t with
    | none => cases hd
    | some t =>
      rw [Segment.repeatReport] at hd
      split at hd
      · rw [List.mem_singleton.1 hd]
        rfl
      · cases hd
  | _ => cases hs; cases hd

theorem Cursor.Reports.offset_le {segment : Segment} {d : Diagnostic} (h : c.Reports segment)
    (hd : d ∈ segment.ownDiagnostics) : d.offset ≤ c.offset + c.rest.length := by
  have hplace {place : Cursor} (k : c.Reaches place) :
      place.offset ≤ c.offset + c.rest.length :=
    Nat.le_of_add_right_le (Nat.le_of_eq k.offset_add_length)
  rcases h with ⟨place, k, rfl⟩ | h
  · obtain rfl := List.mem_singleton.1 hd
    exact hplace k
  · obtain ⟨notice, place, rfl, _, k⟩ := h d hd
    exact hplace k

theorem Segment.offset_le_of_mem_allDiagnostics {segments : List Segment} {n : Nat}
    (h : ∀ segment ∈ segments, ∀ ids, ∀ d ∈ segment.diagnostics ids, d.offset ≤ n)
    (ids : List String) : ∀ d ∈ allDiagnostics ids segments, d.offset ≤ n := by
  induction segments generalizing ids with
  | nil => simp [allDiagnostics]
  | cons segment segments ih =>
    obtain ⟨hs, hrest⟩ := List.forall_mem_cons.1 h
    exact List.forall_mem_append.2 ⟨hs ids, ih hrest _⟩

theorem offset_le_length (source : String) :
    ∀ d ∈ (read source).diagnostics, d.offset ≤ source.toList.length := by
  have hstart := Cursor.within_ofPosition (Nat.zero_le source.toList.length)
  obtain ⟨stretches, htiles, hsegments⟩ := (cuts_segments hstart).1 rfl
  have hsum : (ofPosition source.toList 0).offset + (ofPosition source.toList 0).rest.length =
      source.toList.length := by simp [ofPosition]
  refine Segment.offset_le_of_mem_allDiagnostics (fun segment hm ids d hd => ?_) []
  rw [Segment.diagnostics_eq_append] at hd
  rcases List.mem_append.1 hd with hown | hrepeat
  · rw [← hsum]
    exact (Cursor.reports_segments false _ segment hm).offset_le hown
  · obtain ⟨s, hs, hsome⟩ := List.mem_filterMap.1 (hsegments.symm ▸ hm)
    rw [(htiles.fits s hs).offset_of_mem_repeatReport hsome hrepeat]
    exact htiles.start_le_of_mem s hs

end Offsets

/-- The readers go forward in a text and stay within it, whatever the text is. -/
structure Progress (text : List Char) : Prop where
  column : ∀ p < text.length, (ofPosition text p).readColumn.next.InRange text (p + 1)
  index : ∀ p < text.length, (ofPosition text p).readIndex.next.InRange text (p + 1)
  table : ∀ p ≤ text.length, (ofPosition text p).definition?.isSome →
    (ofPosition text p).readTable.next.InRange text (p + (ofPosition text p).keyword.length)
  relationship : ∀ p ≤ text.length, (ofPosition text p).definition?.isSome →
    (ofPosition text p).readRelationship.next.InRange text
      (p + (ofPosition text p).keyword.length)
  enumeration : ∀ p ≤ text.length, (ofPosition text p).definition?.isSome →
    (ofPosition text p).readEnumeration.next.InRange text
      (p + (ofPosition text p).keyword.length)
  indexBlock : ∀ p ≤ text.length, (ofPosition text p).isIndexBlock →
    (ofPosition text p).readIndexBlock.next.InRange text (p + (ofPosition text p).keyword.length)
  attributes : ∀ p ≤ text.length, (ofPosition text p).readAttributeList.next.InRange text p
  qualifiedName : ∀ p ≤ text.length, (ofPosition text p).readQualifiedName.2.InRange text p
  arguments : ∀ p ≤ text.length, (ofPosition text p).readArguments.2.InRange text p
  nameList : ∀ p < text.length, (ofPosition text p).readNameList.2.InRange text p
  /-- Wherever a quotation is read, its first mark stands there. -/
  quotations : ∀ c : Cursor, c.readName? = some c.readName ∧ c.readType? = some c.readType ∧
    c.readValue? = some c.readValue ∧ ∀ depth, c.argumentsEnd? depth = some (c.argumentsEnd depth)
  /-- A reader goes round by round through its loop. -/
  rounds : ∀ (loop : Loop) (c : Cursor), loop.finish c = loop.finishAfter c (loop.round? c)
  document : ∀ (inStray following : Bool) (c d : Cursor),
    (Loop.document inStray).round? c = some (.goesOn (.document following) d) →
      d.segments following <:+ c.segments inStray
  goesOn : ∀ (loop following : Loop) (c d : Cursor),
    loop.round? c = some (.goesOn following d) → c.offset < d.offset
  -- Arguments may end before a line end, at which their reader stays. That round is the last one of
  -- its loop, so no loop can go round at one place.
  leaves : ∀ (loop : Loop) (c d : Cursor), loop.round? c = some (.leaves d) →
    c.offset < d.offset ∨ d = c ∧ c.peek = some '\n' ∧ ∃ depth, loop = .arguments depth
  starts : ∀ (loop : Loop), ∀ p ≤ text.length,
    (loop.starts (ofPosition text p)).Pairwise (· < ·) ∧
      ∀ q ∈ loop.starts (ofPosition text p), p ≤ q ∧ q ≤ text.length
  diagnostics : ∀ d ∈ (read (String.ofList text)).diagnostics, d.offset ≤ text.length

section Progress

open Cursor

theorem progress_read (text : List Char) : Progress text where
  column p hp :=
    inRange_of_passes hp (passes_readColumn (rest_ofPosition_ne_nil hp)) (overrun_readColumn _)
  index p hp :=
    inRange_of_passes hp (passes_readIndex (rest_ofPosition_ne_nil hp)) (overrun_readIndex _)
  table p hp _ :=
    inRange_of_keyword hp (reaches_skipKeyword_readTable _) (overrun_readTable _)
  relationship p hp _ :=
    inRange_of_keyword hp (reaches_skipKeyword_readRelationship _) (overrun_readRelationship _)
  enumeration p hp _ :=
    inRange_of_keyword hp (reaches_skipKeyword_readEnumeration _) (overrun_readEnumeration _)
  indexBlock p hp h :=
    inRange_of_keyword hp (reaches_skipKeyword_readIndexBlock _) (overrun_readIndexBlock h)
  attributes p hp :=
    inRange_of_reaches hp (reaches_readAttributeList _)
      (overrun_readAttributeList (within_ofPosition hp).overrun)
  qualifiedName p hp :=
    inRange_of_reaches hp (reaches_readQualifiedName _) (overrun_readQualifiedName _)
  arguments p hp :=
    inRange_of_reaches hp (reaches_readArguments _)
      (overrun_argumentsEnd 0 (within_ofPosition hp).overrun)
  nameList p hp :=
    inRange_of_reaches (Nat.le_of_lt hp) (reaches_readNameList _)
      (overrun_readListItems (overrun_next (within_ofPosition (Nat.le_of_lt hp)).overrun
        (rest_ofPosition_ne_nil hp)))
  quotations c := ⟨readName?_eq c, readType?_eq c, readValue?_eq c, (argumentsEnd?_eq · c)⟩
  rounds := Loop.finish_eq
  document _ _ _ _ := Loop.segments_of_goesOn
  goesOn _ _ _ _ h := (Loop.passes_of_goesOn h).offset_lt
  leaves _ _ _ h := (Loop.passes_of_leaves h).imp_left Passes.offset_lt
  starts loop p hp := by
    have hoffset : (ofPosition text p).offset = p := Nat.min_eq_left hp
    have hsum : p + (ofPosition text p).rest.length = text.length := by
      rw [ofPosition, List.length_drop]
      omega
    have hstarts := loop.starts_increase (ofPosition text p)
    rwa [hoffset, hsum] at hstarts
  diagnostics := by
    have h := offset_le_length (String.ofList text)
    rwa [String.toList_ofList] at h

end Progress

end SchemaText.Diagram
