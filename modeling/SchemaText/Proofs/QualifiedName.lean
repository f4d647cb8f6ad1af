import SchemaText.Schema
/-! Dotted names put together from the parts into which they are cut. -/

namespace SchemaText.QualifiedName

theorem ne_dot_of_mem_takeWhile {cs : List Char} {c : Char}
    (h : c ∈ cs.takeWhile fun d => decide (d ≠ '.')) : c ≠ '.' := by
  simpa using List.all_eq_true.1 List.all_takeWhile c h

theorem dropWhile_eq_cons {cs rest : List Char} {c : Char}
    (h : (cs.dropWhile fun d => decide (d ≠ '.')) = c :: rest) :
    c = '.' ∧ cs = (cs.takeWhile fun d => decide (d ≠ '.')) ++ '.' :: rest := by
  have hc : c = '.' := by
    have hd := List.head?_dropWhile_not (fun d => decide (d ≠ '.')) cs
    rw [h] at hd
    simpa using hd
  have hs : (cs.takeWhile fun d => decide (d ≠ '.')) ++ (cs.dropWhile fun d => decide (d ≠ '.')) =
      cs := List.takeWhile_append_dropWhile
  rw [h, hc] at hs
  exact ⟨hc, hs.symm⟩

theorem takeWhile_append_dot {xs : List Char} (h : '.' ∉ xs) (ys : List Char) :
    ((xs ++ '.' :: ys).takeWhile fun d => decide (d ≠ '.')) = xs ∧
      ((xs ++ '.' :: ys).dropWhile fun d => decide (d ≠ '.')) = '.' :: ys := by
  have hx : ∀ c ∈ xs, decide (c ≠ '.') := by
    intro c hc
    simpa using fun k : c = '.' => h (k ▸ hc)
  rw [List.takeWhile_append_of_pos hx, List.dropWhile_append_of_pos hx]
  simp

theorem notMem_of_dropWhile {cs : List Char}
    (h : (cs.dropWhile fun d => decide (d ≠ '.')) = []) : '.' ∉ cs := by
  intro hm
  rw [← List.takeWhile_append_dropWhile (p := fun d => decide (d ≠ '.')) (l := cs), h,
    List.append_nil] at hm
  exact ne_dot_of_mem_takeWhile hm rfl

theorem splitFirst_eq_none_iff {name rest : String} :
    splitFirst name = (none, rest) ↔ '.' ∉ name.toList ∧ rest = name := by
  unfold splitFirst
  dsimp only
  split
  · next hd => simpa [eq_comm] using fun _ => notMem_of_dropWhile hd
  · next c cs hd =>
    have hm : '.' ∈ name.toList := by
      rw [(dropWhile_eq_cons hd).2]
      simp
    simp [hm]

theorem splitFirst_eq_some_iff {name first rest : String} :
    splitFirst name = (some first, rest) ↔
      '.' ∉ first.toList ∧ name.toList = first.toList ++ '.' :: rest.toList := by
  constructor
  · intro h
    unfold splitFirst at h
    dsimp only at h
    split at h
    · simp at h
    · next c cs hd =>
      cases h
      rw [String.toList_ofList, String.toList_ofList]
      exact ⟨fun hm => ne_dot_of_mem_takeWhile hm rfl, (dropWhile_eq_cons hd).2⟩
  · rintro ⟨hn, hs⟩
    obtain ⟨ht, hd⟩ := takeWhile_append_dot hn rest.toList
    rw [splitFirst, hs]
    simp only [ht, hd, String.ofList_toList]

theorem splitLast_of_notMem {name : String} (h : '.' ∉ name.toList) :
    splitLast name = (none, name) := by
  unfold splitLast
  dsimp only
  split
  · rfl
  · next c cs hd =>
    refine absurd (List.mem_reverse.1 ?_) h
    rw [(dropWhile_eq_cons hd).2]
    exact List.mem_append_right _ List.mem_cons_self

theorem splitLast_eq_some_iff {name start last : String} :
    splitLast name = (some start, last) ↔
      '.' ∉ last.toList ∧ name.toList = start.toList ++ '.' :: last.toList := by
  constructor
  · intro h
    unfold splitLast at h
    dsimp only at h
    split at h
    · simp at h
    · next c cs hd =>
      cases h
      have hs := congrArg List.reverse (dropWhile_eq_cons hd).2
      rw [String.toList_ofList, String.toList_ofList]
      refine ⟨fun hm => ne_dot_of_mem_takeWhile (List.mem_reverse.1 hm) rfl, ?_⟩
      simpa using hs
  · rintro ⟨hn, hs⟩
    have hr : name.toList.reverse = last.toList.reverse ++ '.' :: start.toList.reverse := by
      simp [hs]
    obtain ⟨ht, hd⟩ := takeWhile_append_dot (mt List.mem_reverse.1 hn) start.toList.reverse
    rw [splitLast, hr]
    simp only [ht, hd, List.reverse_reverse, String.ofList_toList]

end SchemaText.QualifiedName
