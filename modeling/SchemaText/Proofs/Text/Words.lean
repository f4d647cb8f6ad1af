import SchemaText.Proofs.Text.Trim
import SchemaText.Proofs.Text.Split
/-! The words of a text, from one character to the next. -/

namespace SchemaText.Text

def Parts (cs : List Char) : Prop :=
  Stops (fun c => !isBlank c) cs

section Words

variable {c d : Char} {cs xs ys : List Char}

theorem words_cons_of_isBlank (h : isBlank c) (cs : List Char) : words (c :: cs) = words cs := by
  unfold words
  rw [split_cons_of_separates h]
  rfl

theorem words_cons_of_parts (h : isBlank c = false) (k : Parts cs) :
    words (c :: cs) = [c] :: words cs := by
  cases cs with
  | nil => simp [words, split, h]
  | cons d cs =>
    have hd : isBlank d := by simpa using stops_cons.1 k
    simp [words, split, h, hd]

theorem words_cons_cons (h : isBlank c = false) (k : isBlank d = false) (cs : List Char) :
    words (c :: d :: cs) = (words (d :: cs)).modifyHead (c :: ·) := by
  obtain ⟨first, others, hs⟩ := List.exists_cons_of_ne_nil (split_ne_nil isBlank cs)
  simp [words, split, h, k, hs]

theorem words_cons_congr (c : Char) (h : words xs = words ys) (k : Parts xs ↔ Parts ys) :
    words (c :: xs) = words (c :: ys) := by
  cases hc : isBlank c with
  | true => rw [words_cons_of_isBlank hc, words_cons_of_isBlank hc, h]
  | false =>
    by_cases hx : Parts xs
    · rw [words_cons_of_parts hc hx, words_cons_of_parts hc (k.1 hx), h]
    · have hy : ¬ Parts ys := fun hp => hx (k.2 hp)
      obtain ⟨d, xs, rfl⟩ : ∃ d rest, xs = d :: rest :=
        List.exists_cons_of_ne_nil (by rintro rfl; exact hx (stops_nil _))
      obtain ⟨e, ys, rfl⟩ : ∃ e rest, ys = e :: rest :=
        List.exists_cons_of_ne_nil (by rintro rfl; exact hy (stops_nil _))
      have hd : isBlank d = false := by simpa [Parts] using hx
      have he : isBlank e = false := by simpa [Parts] using hy
      rw [words_cons_cons hc hd, words_cons_cons hc he, h]

theorem exists_mem_split {separates : Char → Bool} (h : c ∈ cs) (k : separates c = false) :
    ∃ part ∈ split separates cs, c ∈ part := by
  induction cs with
  | nil => cases h
  | cons d cs ih =>
    obtain ⟨first, others, hs⟩ := List.exists_cons_of_ne_nil (split_ne_nil separates cs)
    by_cases hd : separates d
    · rw [split_cons_of_separates hd]
      rcases List.mem_cons.1 h with rfl | h
      · rw [k] at hd
        cases hd
      · obtain ⟨part, hp, hc⟩ := ih h
        exact ⟨part, List.mem_cons_of_mem _ hp, hc⟩
    · rw [split_cons_of_not_separates hd, hs, List.modifyHead_cons]
      rcases List.mem_cons.1 h with rfl | h
      · exact ⟨_, List.mem_cons_self, List.mem_cons_self⟩
      · obtain ⟨part, hp, hc⟩ := ih h
        rw [hs] at hp
        rcases List.mem_cons.1 hp with rfl | hp
        · exact ⟨_, List.mem_cons_self, List.mem_cons_of_mem _ hc⟩
        · exact ⟨part, List.mem_cons_of_mem _ hp, hc⟩

theorem exists_mem_words (h : c ∈ cs) (k : isBlank c = false) : ∃ word ∈ words cs, c ∈ word := by
  obtain ⟨part, hp, hc⟩ := exists_mem_split h k
  refine ⟨part, List.mem_filter.2 ⟨hp, ?_⟩, hc⟩
  simpa using List.ne_nil_of_mem hc

end Words

end SchemaText.Text
