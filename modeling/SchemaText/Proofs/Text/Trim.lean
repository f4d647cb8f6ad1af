import Mathlib.Data.List.TakeWhile
import SchemaText.Text.Character
/-! Runs of accepted characters at the start of a text, and texts without the blanks around them. -/

namespace SchemaText.Text

/-- A run of accepted characters ends before `rest`. -/
def Stops (accepts : Char → Bool) (rest : List Char) : Prop :=
  ∀ ch ∈ rest.head?, accepts ch = false

@[simp] theorem stops_nil (accepts : Char → Bool) : Stops accepts [] := by
  simp [Stops]

@[simp] theorem stops_cons {accepts : Char → Bool} {ch : Char} {rest : List Char} :
    Stops accepts (ch :: rest) ↔ accepts ch = false := by
  simp [Stops]

theorem takeWhile_append_of_stops {accepts : Char → Bool} {run rest : List Char}
    (h : ∀ ch ∈ run, accepts ch) (k : Stops accepts rest) :
    (run ++ rest).takeWhile accepts = run ∧ (run ++ rest).dropWhile accepts = rest := by
  rw [List.takeWhile_append_of_pos h, List.dropWhile_append_of_pos h]
  cases rest with
  | nil => simp
  | cons ch rest =>
    have k : accepts ch = false := by simpa using k
    simp [k]

theorem stops_dropWhile (accepts : Char → Bool) (text : List Char) :
    Stops accepts (text.dropWhile accepts) := by
  intro ch hc
  have hnot := List.head?_dropWhile_not accepts text
  rwa [Option.mem_def.1 hc] at hnot

theorem isBlank_space : isBlank ' ' := by
  decide

theorem all_isBlank_replicate (n : Nat) : (List.replicate n ' ').all isBlank :=
  List.all_eq_true.2 fun c hc => by
    rw [List.eq_of_mem_replicate hc]
    exact isBlank_space

theorem prefix_trimEnd (cs : List Char) : trimEnd cs <+: cs := by
  have h : cs.reverse.dropWhile isBlank <:+ cs.reverse := List.dropWhile_suffix _
  simpa [trimEnd] using List.reverse_prefix.2 h

theorem isBlank_head_trim {cs rest : List Char} {c : Char} (h : trim cs = c :: rest) :
    isBlank c = false := by
  have hp : c :: rest <+: trimStart cs := h ▸ prefix_trimEnd (trimStart cs)
  obtain ⟨tail, ht⟩ := hp
  have hd : (cs.dropWhile isBlank).head? = some c := by
    rw [show cs.dropWhile isBlank = c :: rest ++ tail from ht.symm]
    rfl
  have hb := List.head?_dropWhile_not isBlank cs
  rw [hd] at hb
  simpa using hb

theorem trimStart_trimStart (cs : List Char) : trimStart (trimStart cs) = trimStart cs := by
  induction cs with
  | nil => rfl
  | cons c cs ih =>
    by_cases h : isBlank c
    · simpa [trimStart, h] using ih
    · simp [trimStart, h]

theorem trimEnd_trimEnd (cs : List Char) : trimEnd (trimEnd cs) = trimEnd cs := by
  have h := trimStart_trimStart cs.reverse
  unfold trimStart at h
  simp only [trimEnd, List.reverse_reverse, h]

theorem trimStart_of_head {c : Char} (h : isBlank c = false) (cs : List Char) :
    trimStart (c :: cs) = c :: cs := by
  simp [trimStart, h]

theorem trim_eq_nil_iff {cs : List Char} : trim cs = [] ↔ ∀ c ∈ cs, isBlank c := by
  constructor
  · intro h c hc
    have hend : ∀ d ∈ trimStart cs, isBlank d := by
      simpa [trim, trimEnd, List.dropWhile_eq_nil_iff] using h
    rw [← List.takeWhile_append_dropWhile (p := isBlank) (l := cs)] at hc
    rcases List.mem_append.1 hc with hc | hc
    · exact List.mem_takeWhile_imp hc
    · exact hend c hc
  · intro h
    have hstart : trimStart cs = [] := List.dropWhile_eq_nil_iff.2 h
    rw [trim, hstart]
    rfl

theorem trim_ne_nil_of_mem {cs : List Char} {c : Char} (h : c ∈ cs) (k : isBlank c = false) :
    trim cs ≠ [] := by
  intro hblank
  rw [trim_eq_nil_iff.1 hblank c h] at k
  cases k

theorem exists_of_trim_ne_nil {cs : List Char} (h : trim cs ≠ []) :
    ∃ front c rest, cs = front ++ c :: rest ∧ (∀ d ∈ front, isBlank d) ∧ isBlank c = false := by
  obtain ⟨c, rest, hd⟩ : ∃ c rest, trimStart cs = c :: rest :=
    List.exists_cons_of_ne_nil fun hnil => h (by rw [trim, hnil]; rfl)
  refine ⟨cs.takeWhile isBlank, c, rest, ?_, fun d hd => List.mem_takeWhile_imp hd, ?_⟩
  · rw [← hd]
    exact List.takeWhile_append_dropWhile.symm
  · have hb := List.head?_dropWhile_not isBlank cs
    rw [show cs.dropWhile isBlank = c :: rest from hd] at hb
    simpa using hb

theorem trimStart_append_cons {front : List Char} {c : Char} (h : ∀ d ∈ front, isBlank d)
    (k : isBlank c = false) (rest : List Char) :
    trimStart (front ++ c :: rest) = c :: rest := by
  unfold trimStart
  rw [List.dropWhile_append_of_pos h]
  exact trimStart_of_head k rest

theorem trim_trim (cs : List Char) : trim (trim cs) = trim cs := by
  have hs : trimStart (trim cs) = trim cs := by
    cases ht : trim cs with
    | nil => rfl
    | cons c rest => exact trimStart_of_head (isBlank_head_trim ht) rest
  conv =>
    lhs
    rw [trim, hs, trim, trimEnd_trimEnd]
  rw [trim]

theorem trim_sublist (cs : List Char) : (trim cs).Sublist cs :=
  (prefix_trimEnd _).sublist.trans (List.dropWhile_sublist _)

theorem trimEnd_of_getLast? {cs : List Char} {c : Char} (h : cs.getLast? = some c)
    (k : isBlank c = false) : trimEnd cs = cs := by
  have hr : cs.reverse.head? = some c := by rw [List.head?_reverse, h]
  unfold trimEnd
  cases hc : cs.reverse with
  | nil => simp [hc] at hr
  | cons d ds =>
    obtain rfl : d = c := by simpa [hc] using hr
    have hd : (d :: ds).dropWhile isBlank = d :: ds := by simp [k]
    rw [hd, ← hc, List.reverse_reverse]

theorem trim_space_cons (cs : List Char) : trim (' ' :: cs) = trim cs := by
  rfl

section Firm

structure Firm (text : List Char) : Prop where
  head : ∃ c, text.head? = some c ∧ isBlank c = false
  last : ∃ c, text.getLast? = some c ∧ isBlank c = false

theorem Firm.ne_nil {text : List Char} (h : Firm text) : text ≠ [] := by
  rintro rfl
  obtain ⟨_, hc, _⟩ := h.head
  cases hc

theorem Firm.trim {text : List Char} (h : Firm text) : Text.trim text = text := by
  obtain ⟨first, hf, kf⟩ := h.head
  obtain ⟨last, hl, kl⟩ := h.last
  obtain ⟨c, text, rfl⟩ := List.exists_cons_of_ne_nil h.ne_nil
  obtain rfl : c = first := by simpa using hf
  rw [Text.trim, trimStart_of_head kf, trimEnd_of_getLast? hl kl]

theorem firm_of_forall {text : List Char} (hne : text ≠ [])
    (h : ∀ c ∈ text, isBlank c = false) : Firm text := by
  obtain ⟨c, rest, rfl⟩ := List.exists_cons_of_ne_nil hne
  refine ⟨⟨c, rfl, h c List.mem_cons_self⟩, ?_⟩
  exact ⟨_, List.getLast?_eq_some_getLast hne, h _ (List.getLast_mem hne)⟩

theorem trim_eq_self {text : List Char} (h : ∀ c ∈ text, isBlank c = false) :
    trim text = text := by
  by_cases hne : text = []
  · rw [hne]
    rfl
  · exact (firm_of_forall hne h).trim

theorem Firm.trim_between {text front back : List Char} (h : Firm text) (hf : front.all isBlank)
    (hb : back.all isBlank) : Text.trim (front ++ (text ++ back)) = text := by
  obtain ⟨c, hc, kc⟩ := h.head
  obtain ⟨rest, rfl⟩ : ∃ rest, text = c :: rest := by
    cases text with
    | nil => cases hc
    | cons d rest => exact ⟨rest, congrArg (· :: rest) (Option.some.inj hc)⟩
  have hstart : trimStart (front ++ (c :: rest ++ back)) = c :: rest ++ back := by
    unfold trimStart
    rw [List.dropWhile_append_of_pos (List.all_eq_true.1 hf)]
    exact trimStart_of_head kc _
  have hback : ∀ d ∈ back.reverse, isBlank d := fun d hd =>
    List.all_eq_true.1 hb d (List.mem_reverse.1 hd)
  have hend : trimEnd (c :: rest ++ back) = trimEnd (c :: rest) := by
    unfold trimEnd
    rw [List.reverse_append, List.dropWhile_append_of_pos hback]
  obtain ⟨d, hd, kd⟩ := h.last
  rw [Text.trim, hstart, hend, trimEnd_of_getLast? hd kd]

theorem Firm.trim_append {text back : List Char} (h : Firm text) (hb : back.all isBlank) :
    Text.trim (text ++ back) = text := by
  have hbetween : Text.trim ([] ++ (text ++ back)) = text := h.trim_between rfl hb
  exact hbetween

theorem firm_append {first last : List Char}
    (h : ∃ c, first.head? = some c ∧ isBlank c = false) (middle : List Char)
    (k : ∃ c, last.getLast? = some c ∧ isBlank c = false) :
    Firm (first ++ (middle ++ last)) := by
  obtain ⟨c, hc, kc⟩ := h
  obtain ⟨d, hd, kd⟩ := k
  refine ⟨⟨c, ?_, kc⟩, d, ?_, kd⟩
  · rw [List.head?_append, hc]
    rfl
  · rw [List.getLast?_append, List.getLast?_append, hd]
    rfl

end Firm

end SchemaText.Text
