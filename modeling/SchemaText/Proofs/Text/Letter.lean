import SchemaText.Proofs.Diagram.Quotation
import SchemaText.Text.Character
import SchemaText.Text.Lowercase
/-! Plain characters, and letters without regard to case, among the characters of words. -/

namespace SchemaText.Text

open Diagram (isPlain)

theorem isWord_of_isPlain {c : Char} (h : isPlain c) : isWord c := by
  have hn := Diagram.toNat_of_isPlain h
  have hlt : c.toNat < 128 := by omega
  unfold isWord
  rw [if_pos hlt]
  exact h

theorem apart_of_within {xs ys : List (Nat × Nat)} {n : Nat}
    (h : xs.all fun x => ys.all fun y => x.2 < y.1 || y.2 < x.1) (k : within xs n) :
    within ys n = false := by
  obtain ⟨x, hx, hlo, hhi⟩ := within_eq_true_iff.1 k
  rw [← Bool.not_eq_true]
  intro hy
  obtain ⟨y, hy, hlo', hhi'⟩ := within_eq_true_iff.1 hy
  have hxy := List.all_eq_true.1 (List.all_eq_true.1 h x hx) y hy
  simp only [Bool.or_eq_true, decide_eq_true_eq] at hxy
  omega

theorem isBlank_eq_false_of_isWord {c : Char} (h : isWord c) : isBlank c = false := by
  unfold isWord at h
  split at h
  · exact Diagram.isBlank_eq_false_of_isPlain h
  · exact apart_of_within (by decide +kernel) h

theorem isWord_eq_false_of_isBlank {c : Char} (h : isBlank c) : isWord c = false := by
  refine Bool.eq_false_iff.2 fun hw => ?_
  rw [isBlank_eq_false_of_isWord hw] at h
  cases h

theorem char_eq_ofNat {c : Char} {n : Nat} (h : c.toNat = n) : c = Char.ofNat n := by
  rw [← h, Char.ofNat_toNat]

theorem toLower_eq_or (c : Char) :
    c.toLower = c ∨ 65 ≤ c.toNat ∧ c.toNat ≤ 90 ∧ c.toLower.toNat = c.toNat + 32 := by
  by_cases h : c.val ≥ 'A'.val ∧ c.val ≤ 'Z'.val
  · right
    obtain ⟨hl, hu⟩ := h
    have hl : 65 ≤ c.val.toNat := UInt32.le_iff_toNat_le.1 hl
    have hu : c.val.toNat ≤ 90 := UInt32.le_iff_toNat_le.1 hu
    refine ⟨hl, hu, ?_⟩
    delta Char.toLower
    rw [dif_pos ⟨UInt32.le_iff_toNat_le.2 hl, UInt32.le_iff_toNat_le.2 hu⟩]
    have ha : (c.val + ('a'.val - 'A'.val)).toNat = (c.val.toNat + 32) % 2 ^ 32 := rfl
    change (c.val + ('a'.val - 'A'.val)).toNat = c.val.toNat + 32
    rw [ha]
    omega
  · left
    delta Char.toLower
    rw [dif_neg h]

theorem isPlain_iff {c : Char} :
    isPlain c ↔ 48 ≤ c.toNat ∧ c.toNat ≤ 57 ∨ 65 ≤ c.toNat ∧ c.toNat ≤ 90 ∨ c.toNat = 95 ∨
      97 ≤ c.toNat ∧ c.toNat ≤ 122 := by
  refine ⟨Diagram.toNat_of_isPlain, fun h => ?_⟩
  unfold isPlain
  delta Char.isAlphanum Char.isAlpha Char.isUpper Char.isLower Char.isDigit
  simp only [Bool.or_eq_true, Bool.and_eq_true, decide_eq_true_eq, beq_iff_eq,
    UInt32.le_iff_toNat_le, ge_iff_le]
  have hc : c.toNat = c.val.toNat := rfl
  rw [hc] at h
  rcases h with h | h | h | h
  · exact .inl (.inr h)
  · exact .inl (.inl (.inl h))
  · exact .inr (char_eq_ofNat h)
  · exact .inl (.inl (.inr h))

theorem isPlain_toLower {c : Char} : isPlain c.toLower ↔ isPlain c := by
  rcases toLower_eq_or c with h | ⟨hl, hu, h⟩
  · rw [h]
  · rw [isPlain_iff, isPlain_iff]
    omega

theorem isBlank_toLower (c : Char) : isBlank c.toLower = isBlank c := by
  rcases toLower_eq_or c with h | ⟨hl, hu, _⟩
  · rw [h]
  · have hc : isPlain c := isPlain_iff.2 (by omega)
    rw [Diagram.isBlank_eq_false_of_isPlain hc,
      Diagram.isBlank_eq_false_of_isPlain (isPlain_toLower.2 hc)]

theorem isWord_of_sameLetter {c d : Char} (h : isPlain c) (k : sameLetter c d) : isWord d := by
  have hn := Diagram.toNat_of_isPlain h
  have hf : foldLetter c = c.toLower := by
    unfold foldLetter
    simp only [beq_iff_eq, Bool.or_eq_true]
    rw [if_neg (by omega), if_neg (by omega), if_neg (by omega)]
  have he : c.toLower = foldLetter d := by
    rw [← hf]
    exact beq_iff_eq.1 k
  unfold foldLetter at he
  split at he
  · next hd => rw [char_eq_ofNat (beq_iff_eq.1 hd)]; decide +kernel
  · split at he
    · next hd => rw [char_eq_ofNat (beq_iff_eq.1 hd)]; decide +kernel
    · split at he
      · next hd =>
        rcases Bool.or_eq_true_iff.1 hd with hd | hd
        · rw [char_eq_ofNat (beq_iff_eq.1 hd)]; decide +kernel
        · rw [char_eq_ofNat (beq_iff_eq.1 hd)]; decide +kernel
      · exact isWord_of_isPlain (isPlain_toLower.1 (he ▸ isPlain_toLower.2 h))

theorem isWord_of_isLatinLetter {c : Char} (h : isLatinLetter c) : isWord c := by
  unfold isLatinLetter foldLetter at h
  split at h
  · next hc => rw [char_eq_ofNat (beq_iff_eq.1 hc)]; decide +kernel
  · split at h
    · next hc => rw [char_eq_ofNat (beq_iff_eq.1 hc)]; decide +kernel
    · split at h
      · next hc =>
        rcases Bool.or_eq_true_iff.1 hc with hc | hc <;> rw [char_eq_ofNat (beq_iff_eq.1 hc)] <;>
          decide +kernel
      · have hplain : isPlain c.toLower := by simp [isPlain, Char.isAlphanum, h]
        exact isWord_of_isPlain (isPlain_toLower.1 hplain)

theorem sameLetter_of_isDigit {l c : Char} (h : c.isDigit) (k : (foldLetter l).isDigit = false) :
    sameLetter l c = false := by
  have hn : 48 ≤ c.toNat ∧ c.toNat ≤ 57 := by
    simpa [Char.isDigit, UInt32.le_iff_toNat_le] using h
  have hf : foldLetter c = c := by
    unfold foldLetter
    simp only [beq_iff_eq, Bool.or_eq_true]
    rw [if_neg (by omega), if_neg (by omega), if_neg (by omega)]
    exact (toLower_eq_or c).resolve_right (by omega)
  unfold sameLetter
  rw [hf, beq_eq_false_iff_ne]
  rintro he
  rw [he, h] at k
  cases k

theorem lower_of_ascii {cs : List Char} (h : ∀ c ∈ cs, c.toNat < 128) :
    lower cs = cs.map Char.toLower := by
  have hmore (before : List Char) : lowerAfter before cs = cs.map Char.toLower := by
    induction cs generalizing before with
    | nil => rfl
    | cons c cs ih =>
      have hc : c.toNat < 128 := h c (by simp)
      have hs : (c.toNat == 0x3A3) = false := by
        rw [beq_eq_false_iff_ne]
        omega
      rw [lowerAfter, hs, ih (fun d hd => h d (by simp [hd]))]
      simp [lowerLetter, hc]
  exact hmore []

section Lowered

theorem toLower_of_not_upper {c : Char} (h : ¬ (65 ≤ c.toNat ∧ c.toNat ≤ 90)) : c.toLower = c :=
  (toLower_eq_or c).resolve_right fun ⟨hl, hu, _⟩ => h ⟨hl, hu⟩

theorem toLower_toLower (c : Char) : c.toLower.toLower = c.toLower := by
  rcases toLower_eq_or c with h | ⟨hl, hu, h⟩
  · rw [h, h]
  · exact toLower_of_not_upper (by omega)

theorem toNat_ofNat_eq_or (n : Nat) : (Char.ofNat n).toNat = n ∨ (Char.ofNat n).toNat = 0 := by
  unfold Char.ofNat
  by_cases h : n.isValidChar
  · rw [dif_pos h]
    exact .inl rfl
  · rw [dif_neg h]
    exact .inr rfl

theorem last_lt_or_of_mem_caseRuns :
    ∀ run ∈ caseRuns, run.last < 128 ∨ 90 < (run.first + run.shift : Int) := by
  decide +kernel

theorem toLower_of_mem_lowerLetter {c d : Char} (h : d ∈ lowerLetter c) : d.toLower = d := by
  unfold lowerLetter at h
  split at h
  · rw [List.mem_singleton.1 h, toLower_toLower]
  · next hn =>
    split at h
    · rcases List.mem_cons.1 h with rfl | h
      · decide
      · rw [List.mem_singleton.1 h]
        decide
    · split at h
      · next run hr =>
        have hhas := List.find?_some hr
        simp only [CaseRun.has, Bool.and_eq_true, decide_eq_true_eq] at hhas
        have hrun := last_lt_or_of_mem_caseRuns run (List.mem_of_find?_eq_some hr)
        rw [List.mem_singleton.1 h]
        refine toLower_of_not_upper fun hupper => ?_
        rcases toNat_ofNat_eq_or (c.toNat + run.shift).toNat with hc | hc <;> omega
      · rw [List.mem_singleton.1 h]
        exact toLower_of_not_upper (by omega)

theorem map_toLower_lower (cs : List Char) : (lower cs).map Char.toLower = lower cs := by
  have hmore (before : List Char) : ∀ d ∈ lowerAfter before cs, d.toLower = d := by
    induction cs generalizing before with
    | nil => simp [lowerAfter]
    | cons c cs ih =>
      intro d hd
      rcases List.mem_append.1 hd with hd | hd
      · split at hd
        · split at hd <;> rw [List.mem_singleton.1 hd] <;> decide
        · exact toLower_of_mem_lowerLetter hd
      · exact ih _ d hd
  exact (List.map_congr_left (hmore [])).trans (List.map_id _)

end Lowered

section Foreign

theorem lowered_of_mem_caseRuns : ∀ run ∈ caseRuns, run.last < 128 ∨
    (run.first = run.last ∧ (run.first + run.shift : Int) = 107) ∨
      (128 ≤ (run.first + run.shift : Int) ∧ ∀ r ∈ blankRanges,
        (run.last + run.shift : Int) < r.1 ∨ (r.2 : Int) < run.first + run.shift) := by
  decide +kernel

theorem isPlain_eq_false_of_le {c : Char} (h : 128 ≤ c.toNat) : isPlain c = false := by
  refine Bool.eq_false_iff.2 fun hp => ?_
  have hn := Diagram.toNat_of_isPlain hp
  omega

theorem exists_mem_lowerLetter {c : Char} (h : 128 ≤ c.toNat) (hb : isBlank c = false) :
    ∃ d ∈ lowerLetter c, isBlank d = false ∧ (d = 'k' ∨ isPlain d = false) := by
  unfold lowerLetter
  rw [if_neg (by omega)]
  split
  · exact ⟨Char.ofNat 0x307, by simp, by decide +kernel, .inr (by decide +kernel)⟩
  · split
    · next run hr =>
      refine ⟨_, List.mem_singleton_self _, ?_⟩
      have hhas := List.find?_some hr
      simp only [CaseRun.has, Bool.and_eq_true, decide_eq_true_eq] at hhas
      obtain ⟨⟨hfirst, hlast⟩, _⟩ := hhas
      rcases lowered_of_mem_caseRuns run (List.mem_of_find?_eq_some hr) with
        hrun | ⟨hone, hk⟩ | ⟨hlow, hblank⟩
      · omega
      · have hn : (c.toNat + run.shift).toNat = 107 := by omega
        rw [hn]
        decide
      · rcases toNat_ofNat_eq_or (c.toNat + run.shift).toNat with hn | hn
        · refine ⟨?_, .inr (isPlain_eq_false_of_le (by omega))⟩
          refine Bool.eq_false_iff.2 fun hin => ?_
          obtain ⟨r, hmem, hlo, hhi⟩ := within_eq_true_iff.1 hin
          have hapart := hblank r hmem
          omega
        · rw [char_eq_ofNat hn]
          decide
    · exact ⟨c, List.mem_singleton_self c, hb, .inr (isPlain_eq_false_of_le h)⟩

theorem exists_mem_lower {cs : List Char} {c : Char} (hc : c ∈ cs) (h : 128 ≤ c.toNat)
    (hb : isBlank c = false) :
    ∃ d ∈ lower cs, isBlank d = false ∧ (d = 'k' ∨ isPlain d = false) := by
  have hmore (before : List Char) : ∃ d ∈ lowerAfter before cs,
      isBlank d = false ∧ (d = 'k' ∨ isPlain d = false) := by
    induction cs generalizing before with
    | nil => cases hc
    | cons e cs ih =>
      unfold lowerAfter
      simp only [List.mem_append]
      rcases List.mem_cons.1 hc with rfl | hc
      · split
        · split
          · exact ⟨_, .inl (List.mem_singleton_self _), by decide, .inr (by decide)⟩
          · exact ⟨_, .inl (List.mem_singleton_self _), by decide, .inr (by decide)⟩
        · obtain ⟨d, hd, hk⟩ := exists_mem_lowerLetter h hb
          exact ⟨d, .inl hd, hk⟩
      · obtain ⟨d, hd, hk⟩ := ih hc (e :: before)
        exact ⟨d, .inr hd, hk⟩
  exact hmore []

end Foreign

end SchemaText.Text
