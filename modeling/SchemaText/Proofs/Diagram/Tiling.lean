import SchemaText.Proofs.Diagram.InnerReport
import SchemaText.Proofs.Diagram.Quotation
/-! A text in the notation is cut without a gap into blanks, comments, definitions and the text
outside of all of them, and the schema is what its definitions were read as. -/

namespace SchemaText.Diagram

open Cursor (ofPosition)
open Text (isBlank)

section Blanks

variable {text : List Char} {c : Cursor}

def BlankBetween (text : List Char) (p q : Nat) : Prop :=
  ∀ i, p ≤ i → i < q → ∃ ch, text[i]? = some ch ∧ isBlank ch

theorem blankBetween_skipBlank (h : c.Within text) :
    BlankBetween text c.offset c.skipBlank.offset := by
  intro i hp hi
  change i < c.offset + (c.rest.takeWhile isBlank).length at hi
  have hlt : i - c.offset < (c.rest.takeWhile isBlank).length := by omega
  have hget : (c.rest.takeWhile isBlank ++ c.rest.dropWhile isBlank)[i - c.offset]? =
      some (c.rest.takeWhile isBlank)[i - c.offset] := by
    rw [List.getElem?_append_left hlt, List.getElem?_eq_getElem hlt]
  have hmem := List.getElem_mem hlt
  rw [List.takeWhile_append_dropWhile] at hget
  refine ⟨(c.rest.takeWhile isBlank)[i - c.offset], ?_,
    List.all_eq_true.1 List.all_takeWhile _ hmem⟩
  rw [← hget, h.rest, List.getElem?_drop, Nat.add_sub_cancel' hp]

theorem isBlank_peek_skipBlank {ch : Char} (h : c.skipBlank.peek = some ch) :
    isBlank ch = false := by
  have hb := List.head?_dropWhile_not isBlank c.rest
  rw [show (c.rest.dropWhile isBlank).head? = some ch from h] at hb
  simpa using hb

end Blanks

section Openings

def Cursor.opens (c : Cursor) : Bool :=
  c.definition?.isSome || c.isComment

theorem Cursor.Within.opens_ofPosition {text : List Char} {c : Cursor} (h : c.Within text) :
    (ofPosition text c.offset).opens = c.opens :=
  congrArg Cursor.opens h.eq_ofPosition

theorem isBlank_eq_false_of_isAlpha {c : Char} (h : c.isAlpha) : isBlank c = false :=
  isBlank_eq_false_of_isPlain (by simp [isPlain, Char.isAlphanum, h])

theorem opens_eq_false_of_blank {text : List Char} {i : Nat} {ch : Char} (h : text[i]? = some ch)
    (k : isBlank ch) : (ofPosition text i).opens = false := by
  have hlt : i < text.length := (List.getElem?_eq_some_iff.1 h).1
  have hrest : (ofPosition text i).rest = ch :: text.drop (i + 1) := by
    change text.drop i = _
    rw [List.drop_eq_getElem_cons hlt, (List.getElem?_eq_some_iff.1 h).2]
  have halpha : ch.isAlpha = false := by
    rw [← Bool.not_eq_true]
    intro ha
    rw [isBlank_eq_false_of_isAlpha ha] at k
    cases k
  have hslash : ('/' == ch) = false := by
    rw [beq_eq_false_iff_ne]
    rintro rfl
    exact absurd k (by decide)
  have hkeyword : (ofPosition text i).keyword = "" := by
    rw [Cursor.keyword, hrest, List.takeWhile_cons_of_neg (by simp [halpha])]
  rw [Cursor.opens, Cursor.definition?, hkeyword, Cursor.isComment, hrest]
  simp [Definition.ofKeyword?, List.isPrefixOf, hslash]

end Openings

section Stretches

/-- A stretch of a text and what was read there; blanks are read as nothing. -/
structure Stretch where
  start : Nat
  stop : Nat
  segment : Option Segment

variable {text : List Char} {p q : Nat}

/-- What was read in a stretch is what stands there: a reader that is called at its start ends at
its stop and gives the segment. Text outside of all definitions goes up to the next opening. -/
inductive Fits (text : List Char) : Stretch → Prop where
  | blank {p q : Nat} (h : BlankBetween text p q) : Fits text ⟨p, q, none⟩
  | comment {p q : Nat} (h : (ofPosition text p).isComment)
      (k : (ofPosition text p).skipLine = ofPosition text q) : Fits text ⟨p, q, some .comment⟩
  | stray {p q : Nat} (solid : ∃ ch, text[p]? = some ch ∧ isBlank ch = false)
      (closed : ∀ i, p ≤ i → i < q → (ofPosition text i).opens = false)
      (ended : q = text.length ∨ (ofPosition text q).opens) : Fits text ⟨p, q, some (.stray p)⟩
  | table {p q : Nat} {t : Option Table} {list : List Diagnostic}
      (h : (ofPosition text p).definition? = some .table)
      (k : (ofPosition text p).readTable = ⟨t, ofPosition text q, list⟩) :
      Fits text ⟨p, q, some (.table p t list)⟩
  | relationship {p q : Nat} {r : Option Relationship} {list : List Diagnostic}
      (h : (ofPosition text p).definition? = some .relationship)
      (k : (ofPosition text p).readRelationship = ⟨r, ofPosition text q, list⟩) :
      Fits text ⟨p, q, some (.relationship r list)⟩
  | enumeration {p q : Nat} {e : Enumeration} {list : List Diagnostic}
      (h : (ofPosition text p).definition? = some .enumeration)
      (k : (ofPosition text p).readEnumeration = ⟨e, ofPosition text q, list⟩) :
      Fits text ⟨p, q, some (.enumeration e list)⟩

/-- The stretches follow each other from a position to the end of the text, without a gap. -/
inductive Tiles (text : List Char) : Nat → List Stretch → Prop where
  | nil : Tiles text text.length []
  | cons {s : Stretch} {stretches : List Stretch} (h : Fits text s) (k : s.start < s.stop)
      (rest : Tiles text s.stop stretches) : Tiles text s.start (s :: stretches)

def Cuts (text : List Char) (p : Nat) (segments : List Segment) : Prop :=
  ∃ stretches, Tiles text p stretches ∧ stretches.filterMap Stretch.segment = segments

def Continues (text : List Char) (p : Nat) (segments : List Segment) : Prop :=
  ∃ q, p ≤ q ∧ (∀ i, p ≤ i → i < q → (ofPosition text i).opens = false) ∧
    (q = text.length ∨ (ofPosition text q).opens) ∧ Cuts text q segments

theorem Cuts.blank {segments : List Segment} (h : Cuts text q segments) (hp : p ≤ q)
    (hb : BlankBetween text p q) : Cuts text p segments := by
  rcases Nat.eq_or_lt_of_le hp with rfl | hlt
  · exact h
  · obtain ⟨stretches, ht, hs⟩ := h
    exact ⟨⟨p, q, none⟩ :: stretches, .cons (.blank hb) hlt ht, hs⟩

theorem Cuts.cons {segment : Segment} {segments : List Segment} (h : Cuts text q segments)
    (hp : p < q) (hf : Fits text ⟨p, q, some segment⟩) : Cuts text p (segment :: segments) := by
  obtain ⟨stretches, ht, rfl⟩ := h
  exact ⟨⟨p, q, some segment⟩ :: stretches, .cons hf hp ht, rfl⟩

theorem Cuts.continues {segments : List Segment} (h : Cuts text q segments) (hp : p ≤ q)
    (hb : BlankBetween text p q) (hq : q = text.length ∨ (ofPosition text q).opens) :
    Continues text p segments := by
  refine ⟨q, hp, fun i hi hlt => ?_, hq, h⟩
  obtain ⟨ch, hc, hk⟩ := hb i hi hlt
  exact opens_eq_false_of_blank hc hk

theorem Continues.before {segments : List Segment} (h : Continues text (q + 1) segments)
    (hp : p ≤ q) (hb : BlankBetween text p q) (hq : (ofPosition text q).opens = false) :
    Continues text p segments := by
  obtain ⟨r, hr, hclosed, hended, hc⟩ := h
  refine ⟨r, by omega, fun i hi hlt => ?_, hended, hc⟩
  rcases Nat.lt_trichotomy i q with hiq | rfl | hiq
  · obtain ⟨ch, hc, hk⟩ := hb i hi hiq
    exact opens_eq_false_of_blank hc hk
  · exact hq
  · exact hclosed i hiq hlt

theorem Continues.stray {segments : List Segment} (h : Continues text (p + 1) segments)
    (solid : ∃ ch, text[p]? = some ch ∧ isBlank ch = false)
    (closed : (ofPosition text p).opens = false) : Cuts text p (.stray p :: segments) := by
  obtain ⟨q, hq, hclosed, hended, hcut⟩ := h
  refine hcut.cons hq (.stray solid (fun i hi hlt => ?_) hended)
  rcases Nat.eq_or_lt_of_le hi with rfl | hi
  · exact closed
  · exact hclosed i hi hlt

theorem fits_readDefinition {c : Cursor} {definition : Definition}
    (h : c.definition? = some definition) (hc : c.Within text)
    (k : (c.readDefinition definition).2.Within text) :
    Fits text ⟨c.offset, (c.readDefinition definition).2.offset,
      some (c.readDefinition definition).1⟩ := by
  have hstop := k.eq_ofPosition.symm
  cases definition with
  | table =>
    simp only [Cursor.readDefinition] at hstop ⊢
    generalize hs : c.readTable = step at hstop ⊢
    exact .table (by rw [hc.eq_ofPosition, h]) (by rw [hc.eq_ofPosition, hs, ← hstop])
  | relationship =>
    simp only [Cursor.readDefinition] at hstop ⊢
    generalize hs : c.readRelationship = step at hstop ⊢
    exact .relationship (by rw [hc.eq_ofPosition, h]) (by rw [hc.eq_ofPosition, hs, ← hstop])
  | enumeration =>
    simp only [Cursor.readDefinition] at hstop ⊢
    generalize hs : c.readEnumeration = step at hstop ⊢
    exact .enumeration (by rw [hc.eq_ofPosition, h]) (by rw [hc.eq_ofPosition, hs, ← hstop])

end Stretches

section Segments

variable {text : List Char} {c : Cursor} {segments : List Segment}

theorem cuts_end (text : List Char) : Cuts text text.length [] :=
  ⟨[], .nil, rfl⟩

theorem within_skipBlank (h : c.Within text) : c.skipBlank.Within text :=
  h.of_reaches (Cursor.reaches_skipBlank c) (Cursor.overrun_skipBlank c)

theorem cuts_and_continues (hc : c.Within text) (h : Cuts text c.skipBlank.offset segments)
    (k : c.skipBlank.offset = text.length ∨ c.skipBlank.opens) (inStray : Bool) :
    (inStray = false → Cuts text c.offset segments) ∧
      (inStray = true → Continues text c.offset segments) := by
  have hle := (Cursor.reaches_skipBlank c).offset_le
  have hblank := blankBetween_skipBlank hc
  rw [← (within_skipBlank hc).opens_ofPosition] at k
  exact ⟨fun _ => h.blank hle hblank, fun _ => h.continues hle hblank k⟩

theorem solid_skipBlank (hc : c.Within text) (he : ¬ c.skipBlank.atEnd) :
    ∃ ch, text[c.skipBlank.offset]? = some ch ∧ isBlank ch = false := by
  obtain ⟨ch, rest, hr⟩ := List.exists_cons_of_ne_nil (mt Cursor.atEnd_iff.2 he)
  have hpeek := Cursor.peek_eq_some_iff.2 ⟨rest, hr⟩
  exact ⟨ch, (within_skipBlank hc).peek_eq ▸ hpeek, isBlank_peek_skipBlank hpeek⟩

theorem within_next_skipBlank (hc : c.Within text) (he : ¬ c.skipBlank.atEnd)
    (hd : c.skipBlank.definition? = none) (hcomment : ¬ c.skipBlank.isComment) :
    c.skipBlank.next.Within text ∧ (ofPosition text c.skipBlank.offset).opens = false := by
  have hskip := within_skipBlank hc
  constructor
  · exact hskip.of_reaches (Cursor.reaches_next _)
      (Cursor.overrun_next (Cursor.overrun_skipBlank c) (mt Cursor.atEnd_iff.2 he))
  · rw [hskip.opens_ofPosition, Cursor.opens, hd]
    simpa using hcomment

theorem cuts_segments {inStray : Bool} {c : Cursor} (hc : c.Within text) :
    (inStray = false → Cuts text c.offset (c.segments inStray)) ∧
      (inStray = true → Continues text c.offset (c.segments inStray)) := by
  fun_induction Cursor.segments inStray c with
  | case1 inStray c he =>
    have hend := (within_skipBlank hc).offset_eq_length (Cursor.atEnd_iff.1 he)
    exact cuts_and_continues hc (hend ▸ cuts_end text) (.inl hend) inStray
  | case2 inStray c _ definition hd first ih =>
    have hskip := within_skipBlank hc
    have hpass := Cursor.passes_readDefinition hd
    have hnext := hskip.of_reaches hpass.reaches (Cursor.overrun_readDefinition _ _)
    have hcut := ((ih hnext).1 rfl).cons hpass.offset_lt (fits_readDefinition hd hskip hnext)
    exact cuts_and_continues hc hcut (.inr (by simp [Cursor.opens, hd])) inStray
  | case3 inStray c _ hd hcomment ih =>
    have hskip := within_skipBlank hc
    have hpass := Cursor.passes_skipLine (Cursor.rest_ne_nil_of_isComment hcomment)
    have hnext := hskip.of_reaches hpass.reaches (Cursor.overrun_skipLine _)
    have hfits : Fits text ⟨c.skipBlank.offset, c.skipBlank.skipLine.offset, some .comment⟩ :=
      .comment (by rw [hskip.eq_ofPosition, hcomment])
        (by rw [hskip.eq_ofPosition, hnext.eq_ofPosition])
    have hcut := ((ih hnext).1 rfl).cons hpass.offset_lt hfits
    exact cuts_and_continues hc hcut (.inr (by simp [Cursor.opens, hcomment])) inStray
  | case4 c he hd hcomment rest ih =>
    obtain ⟨hnext, hclosed⟩ := within_next_skipBlank hc he hd hcomment
    have hmore := (ih hnext).2 rfl
    rw [Cursor.offset_next (mt Cursor.atEnd_iff.2 he)] at hmore
    exact ⟨fun hk => absurd hk.symm Bool.false_ne_true, fun _ =>
      hmore.before (Cursor.reaches_skipBlank c).offset_le (blankBetween_skipBlank hc) hclosed⟩
  | case5 inStray c he hd hcomment rest hs ih =>
    obtain ⟨hnext, hclosed⟩ := within_next_skipBlank hc he hd hcomment
    have hmore := (ih hnext).2 rfl
    rw [Cursor.offset_next (mt Cursor.atEnd_iff.2 he)] at hmore
    have hcut := hmore.stray (solid_skipBlank hc he) hclosed
    exact ⟨fun _ => hcut.blank (Cursor.reaches_skipBlank c).offset_le (blankBetween_skipBlank hc),
      fun hk => absurd hk hs⟩

end Segments

section Reports

def Stretch.isStray (s : Stretch) : Bool :=
  match s.segment with
  | some (.stray _) => true
  | _ => false

/-- The segment is a comment, or a definition that was read as a whole. -/
def Segment.IsWhole : Segment → Prop
  | comment => True
  | stray _ => False
  | table _ t list => t.isSome ∧ list = []
  | relationship r list => r.isSome ∧ list = []
  | enumeration _ list => list = []

def isContentReport (d : Diagnostic) : Bool :=
  d.construct == .content

theorem Cursor.ReportsInner.filter_eq_nil {c : Cursor} {diagnostics : List Diagnostic}
    (h : c.ReportsInner diagnostics) : diagnostics.filter isContentReport = [] := by
  rw [List.filter_eq_nil_iff]
  intro d hd
  obtain ⟨notice, place, rfl, hn, _⟩ := h d hd
  cases notice <;> first | exact Bool.false_ne_true | cases hn

namespace Segment

def strayReport? : Segment → Option Diagnostic
  | stray offset => some (Notice.unrecognisedContent.diagnostic offset)
  | _ => none

theorem filter_ownDiagnostics {segment : Segment} {c : Cursor} (h : c.Reports segment) :
    segment.ownDiagnostics.filter isContentReport = segment.strayReport?.toList := by
  rcases h with ⟨place, _, rfl⟩ | h
  · rfl
  · cases segment with
    | stray offset => rfl
    | _ => exact h.filter_eq_nil

theorem filter_repeatReport (segment : Segment) (ids : List String) :
    (segment.repeatReport ids).filter isContentReport = [] := by
  unfold repeatReport
  split
  · split <;> rfl
  · rfl

theorem filter_allDiagnostics {segments : List Segment} {c : Cursor}
    (h : ∀ segment ∈ segments, c.Reports segment) (ids : List String) :
    (allDiagnostics ids segments).filter isContentReport =
      segments.filterMap strayReport? := by
  induction segments generalizing ids with
  | nil => rfl
  | cons segment segments ih =>
    obtain ⟨hs, hrest⟩ := List.forall_mem_cons.1 h
    rw [allDiagnostics, diagnostics_eq_append, List.filter_append, List.filter_append,
      filter_repeatReport, filter_ownDiagnostics hs, ih hrest]
    cases hr : segment.strayReport? <;> simp [hr]

end Segment

theorem isSome_readTable {c : Cursor} (h : c.readTable.diagnostics = []) :
    c.readTable.value.isSome := by
  unfold Cursor.readTable at h ⊢
  dsimp only at h ⊢
  split
  · next hn =>
    rw [if_pos hn] at h
    cases (List.append_eq_nil_iff.1 h).2
  · rfl

theorem isSome_readRelationship {c : Cursor} (h : c.readRelationship.diagnostics = []) :
    c.readRelationship.value.isSome := by
  unfold Cursor.readRelationship at h ⊢
  dsimp only at h ⊢
  split at h
  · rfl
  · cases h
  · cases h

theorem Fits.isWhole {text : List Char} {s : Stretch} {segment : Segment} (h : Fits text s)
    (hs : s.segment = some segment) (k : segment.ownDiagnostics = []) : segment.IsWhole := by
  cases h with
  | blank => cases hs
  | comment => cases hs; trivial
  | stray => cases hs; cases k
  | @table p q t list _ hr =>
    cases hs
    have hsome := isSome_readTable (c := ofPosition text p) (by rw [hr]; exact k)
    rw [hr] at hsome
    exact ⟨hsome, k⟩
  | @relationship p q r list _ hr =>
    cases hs
    have hsome := isSome_readRelationship (c := ofPosition text p) (by rw [hr]; exact k)
    rw [hr] at hsome
    exact ⟨hsome, k⟩
  | enumeration => cases hs; exact k

theorem Tiles.fits {text : List Char} {p : Nat} {stretches : List Stretch}
    (h : Tiles text p stretches) : ∀ s ∈ stretches, Fits text s := by
  induction h with
  | nil => simp
  | cons h _ _ ih => exact List.forall_mem_cons.2 ⟨h, ih⟩

theorem filterMap_strayReport? {text : List Char} {stretches : List Stretch}
    (h : ∀ s ∈ stretches, Fits text s) :
    (stretches.filterMap Stretch.segment).filterMap Segment.strayReport? =
      (stretches.filter Stretch.isStray).map
        fun s => Notice.unrecognisedContent.diagnostic s.start := by
  induction stretches with
  | nil => rfl
  | cons s stretches ih =>
    obtain ⟨hs, hrest⟩ := List.forall_mem_cons.1 h
    cases hs with
    | stray => exact congrArg (List.cons _) (ih hrest)
    | _ => exact ih hrest

end Reports

/-- How the stretches of a text account for a reading of it. -/
structure Tiling (text : List Char) (stretches : List Stretch) (reading : Reading) : Prop where
  tiles : Tiles text 0 stretches
  tables : reading.schema.tables =
    (stretches.filterMap Stretch.segment).filterMap Segment.table?
  relationships : reading.schema.relationships =
    (stretches.filterMap Stretch.segment).filterMap Segment.relationship?
  enumerations : reading.schema.enumerations =
    (stretches.filterMap Stretch.segment).filterMap Segment.enumeration?
  content : reading.diagnostics.filter isContentReport =
    (stretches.filter Stretch.isStray).map
      fun s => Notice.unrecognisedContent.diagnostic s.start
  accepted : ∀ schema, reading.accept true = .ok schema → schema = reading.schema ∧
    ∀ s ∈ stretches, ∀ segment ∈ s.segment, segment.IsWhole

theorem exists_tiling_read (source : String) :
    ∃ stretches, Tiling source.toList stretches (read source) := by
  have hstart := Cursor.within_ofPosition (Nat.zero_le source.toList.length)
  obtain ⟨stretches, htiles, hsegments⟩ := (cuts_segments hstart).1 rfl
  have hread : read source = readingOfSegments (stretches.filterMap Stretch.segment) := by
    rw [hsegments]
    rfl
  have hreports := Cursor.reports_segments false (ofPosition source.toList 0)
  rw [← hsegments] at hreports
  refine ⟨stretches, by simpa [ofPosition] using htiles, by rw [hread]; rfl, by rw [hread]; rfl,
    by rw [hread]; rfl, ?_, fun schema h => ?_⟩
  · rw [hread]
    exact (Segment.filter_allDiagnostics hreports []).trans (filterMap_strayReport? htiles.fits)
  · obtain ⟨hnil, rfl⟩ := Reading.accept_strict_eq_ok_iff.1 h
    rw [hread] at hnil
    refine ⟨rfl, fun s hs segment hm => (htiles.fits s hs).isWhole hm ?_⟩
    refine List.subset_nil.1 ?_
    rw [← hnil]
    exact Segment.ownDiagnostics_subset (List.mem_filterMap.2 ⟨s, hs, hm⟩) []

end SchemaText.Diagram
