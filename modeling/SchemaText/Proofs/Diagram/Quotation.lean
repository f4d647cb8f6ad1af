import SchemaText.Proofs.Diagram.Expressible
import SchemaText.Proofs.Diagram.Place
/-! Quoted texts and names, written and read back. -/

namespace SchemaText.Diagram

theorem toNat_of_isPlain {c : Char} (h : isPlain c) :
    48 ≤ c.toNat ∧ c.toNat ≤ 57 ∨ 65 ≤ c.toNat ∧ c.toNat ≤ 90 ∨ c.toNat = 95 ∨
      97 ≤ c.toNat ∧ c.toNat ≤ 122 := by
  unfold isPlain at h
  delta Char.isAlphanum Char.isAlpha Char.isUpper Char.isLower Char.isDigit at h
  simp only [Bool.or_eq_true, Bool.and_eq_true, decide_eq_true_eq, beq_iff_eq,
    UInt32.le_iff_toNat_le, ge_iff_le] at h
  have hc : c.toNat = c.val.toNat := rfl
  rcases h with ((h | h) | h) | h
  · simp at h
    omega
  · simp at h
    omega
  · simp at h
    omega
  · simp [h]

theorem isBlank_eq_false_of_isPlain {c : Char} (h : isPlain c) : Text.isBlank c = false := by
  have := toNat_of_isPlain h
  simp [Text.isBlank, Text.blankRanges, Text.within]
  omega

theorem isMark_iff {c : Char} : isMark c ↔ c ∈ marks := by
  simp [isMark, marks, or_assoc]

theorem isBlank_eq_false_of_isMark {c : Char} (h : isMark c) : Text.isBlank c = false := by
  have hc := isMark_iff.1 h
  simp only [marks, List.mem_cons, List.not_mem_nil, or_false] at hc
  rcases hc with rfl | rfl | rfl <;> rfl

theorem isBare_of_isPlain {c : Char} (h : isPlain c) : isBare c := by
  simp only [isPlain] at h
  simp only [isBare, h, Bool.true_or]

theorem isBare_eq_false_of_isMark {c : Char} (h : isMark c) : isBare c = false := by
  have hc := isMark_iff.1 h
  simp only [marks, List.mem_cons, List.not_mem_nil, or_false] at hc
  rcases hc with rfl | rfl | rfl <;> rfl

theorem isMark_eq_false_of_isBare {c : Char} (h : isBare c) : isMark c = false := by
  rw [← Bool.not_eq_true]
  intro k
  simp [isBare_eq_false_of_isMark k] at h

theorem isBare_iff {c : Char} : isBare c ↔ isPlain c ∨ c = '.' := by
  simp [isBare, isPlain]

theorem isMark_markFor (cs : List Char) : isMark (markFor cs) := by
  unfold markFor
  cases h : marks.find? fun mark => !cs.contains mark with
  | none => rfl
  | some mark => exact isMark_iff.2 (List.mem_of_find?_eq_some h)

theorem markFor_notMem {cs : List Char} (h : Quotable cs) : markFor cs ∉ cs := by
  unfold markFor
  cases k : marks.find? fun mark => !cs.contains mark with
  | none =>
    obtain ⟨mark, hm, hc⟩ := h
    simpa [hc] using List.find?_eq_none.1 k mark hm
  | some mark => simpa using List.find?_some k

def opensName (c : Char) : Bool :=
  isPlain c || isMark c

theorem isBlank_eq_false_of_opensName {c : Char} (h : opensName c) : Text.isBlank c = false :=
  (Bool.or_eq_true_iff.1 h).elim isBlank_eq_false_of_isPlain isBlank_eq_false_of_isMark

theorem toList_quote (text : String) : (quote text).toList = quoteChars text.toList := by
  simp [quote]

theorem toList_renderName (name : String) :
    (renderName name).toList = renderNameChars name.toList := by
  simp [renderName]

theorem renderNameChars_of_isPlainName {cs : List Char} (h : isPlainName cs) :
    renderNameChars cs = cs := by
  simp [renderNameChars, h]

theorem renderNameChars_of_not_isPlainName {cs : List Char} (h : ¬ isPlainName cs) :
    renderNameChars cs = markFor cs :: (cs ++ [markFor cs]) := by
  simp [renderNameChars, h, quoteChars]

theorem exists_renderNameChars_eq_cons (cs : List Char) :
    ∃ ch tail, renderNameChars cs = ch :: tail ∧ opensName ch := by
  unfold renderNameChars
  split
  · next h =>
    cases cs with
    | nil => simp [isPlainName] at h
    | cons ch tail =>
      simp only [isPlainName, List.all_cons, Bool.and_eq_true] at h
      exact ⟨ch, tail, rfl, by simp [opensName, h.2.1]⟩
  · exact ⟨markFor cs, cs ++ [markFor cs], rfl, by simp [opensName, isMark_markFor]⟩

namespace Cursor

theorem stops_renderNameChars {accepts : Char → Bool}
    (h : ∀ ch, opensName ch → accepts ch = false) (cs rest : List Char) :
    Stops accepts (renderNameChars cs ++ rest) := by
  obtain ⟨ch, tail, hc, ho⟩ := exists_renderNameChars_eq_cons cs
  simp [hc, h ch ho]

theorem stops_isBlank_quoteChars (cs rest : List Char) :
    Stops Text.isBlank (quoteChars cs ++ rest) := by
  simpa [quoteChars] using isBlank_eq_false_of_isMark (isMark_markFor cs)

theorem stops_isBare_of_mem {ch : Char} (h : ch ∈ [',', ']', ')']) (rest : List Char) :
    Stops isBare (ch :: rest) ∧ Stops isMark (ch :: rest) := by
  simp only [List.mem_cons, List.not_mem_nil, or_false] at h
  rcases h with rfl | rfl | rfl <;> exact ⟨stops_cons.2 (by decide), stops_cons.2 (by decide)⟩

theorem readName_quoteChars (n : Nat) {cs : List Char} (h : Quotable cs) (rest : List Char) :
    (place n (quoteChars cs ++ rest)).readName =
      (cs, place (n + (quoteChars cs).length) rest) := by
  have hq : quoteChars cs ++ rest = markFor cs :: (cs ++ markFor cs :: rest) := by
    simp [quoteChars]
  have hl : n + (quoteChars cs).length = n + 1 + cs.length + 1 := by
    simp [quoteChars]
    omega
  rw [hq, hl, readName, mark?_place_of_isMark n (isMark_markFor cs)]
  simp only [next_place_cons, readQuoted_place _ (markFor_notMem h)]

theorem readName_bare (n : Nat) {cs rest : List Char} (h : ∀ ch ∈ cs, isBare ch)
    (k : Stops isBare rest) (m : Stops isMark rest) :
    (place n (cs ++ rest)).readName = (cs, place (n + cs.length) rest) := by
  have hm : (place n (cs ++ rest)).mark? = none := by
    cases cs with
    | nil => exact mark?_place_of_stops n m
    | cons ch cs =>
      refine mark?_place_of_stops n ?_
      simpa using isMark_eq_false_of_isBare (h ch (by simp))
  simp only [readName, hm, takeWhile_place n h k]

theorem readName_renderNameChars (n : Nat) {cs rest : List Char} (h : Quotable cs)
    (k : Stops isBare rest) (m : Stops isMark rest) :
    (place n (renderNameChars cs ++ rest)).readName =
      (cs, place (n + (renderNameChars cs).length) rest) := by
  unfold renderNameChars
  split
  · next hp =>
    simp only [isPlainName, Bool.and_eq_true, List.all_eq_true] at hp
    exact readName_bare n (fun ch hc => isBare_of_isPlain (hp.2 ch hc)) k m
  · exact readName_quoteChars n h rest

end Cursor

end SchemaText.Diagram
