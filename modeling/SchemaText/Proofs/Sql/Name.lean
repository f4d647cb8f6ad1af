import SchemaText.Sql.Token
import SchemaText.Proofs.Text.Split
import SchemaText.Proofs.Text.Trim
/-! Plain names, which hold none of the characters that enclose names, and what is left of a text
when it is cleaned. -/

namespace SchemaText.Sql.Identifier

open Text (isBlank)

theorem mem_clean {written : List Char} {c : Char} (h : c ∈ clean written) :
    c = '.' ∨ c ∈ written ∧ isEnclosing c = false := by
  rcases Text.mem_intercalate h with h | ⟨part, hp, hc⟩
  · exact .inl (List.mem_singleton.1 h)
  · obtain ⟨trimmed, ht, rfl⟩ := List.mem_map.1 hp
    have hm := Text.mem_of_mem_split ht c ((Text.trim_sublist trimmed).subset hc)
    obtain ⟨hw, he⟩ := List.mem_filter.1 hm
    exact .inr ⟨hw, by simpa using he⟩

theorem isEnclosing_of_mem_clean {written : List Char} {c : Char} (h : c ∈ clean written) :
    isEnclosing c = false := by
  rcases mem_clean h with rfl | ⟨_, h⟩
  · rfl
  · exact h

theorem filter_eq_self_of_forall {p : Char → Bool} (hp : ['`', '"', '[', ']'].all (!p ·))
    {text : List Char} (h : ∀ c ∈ text, p c) : text.filter (fun c => !isEnclosing c) = text := by
  refine List.filter_eq_self.2 fun c hc => ?_
  cases he : isEnclosing c with
  | false => rfl
  | true =>
    have hin : c ∈ ['`', '"', '[', ']'] := by
      simpa [isEnclosing, or_assoc] using he
    have hnot := List.all_eq_true.1 hp c hin
    rw [h c hc] at hnot
    cases hnot

theorem clean_eq_filter {text : List Char} (h : ∀ c ∈ text, isBlank c = false) :
    clean text = text.filter fun c => !isEnclosing c := by
  have hpart : ∀ part ∈ Text.split (· == '.') (text.filter fun c => !isEnclosing c),
      Text.trim part = part := by
    intro part hp
    refine Text.trim_eq_self fun c hc => h c ?_
    exact (List.mem_filter.1 (Text.mem_of_mem_split hp c hc)).1
  unfold clean
  rw [List.map_congr_left hpart, List.map_id', Text.intercalate_split]

theorem clean_space_cons (text : List Char) : clean (' ' :: text) = clean text := by
  have hfilter : (' ' :: text).filter (fun c => !isEnclosing c) =
      ' ' :: text.filter fun c => !isEnclosing c := rfl
  unfold clean
  rw [hfilter, Text.split_cons_of_not_separates (by decide)]
  obtain ⟨first, others, hs⟩ := List.exists_cons_of_ne_nil
    (Text.split_ne_nil (· == '.') (text.filter fun c => !isEnclosing c))
  rw [hs, List.modifyHead_cons, List.map_cons, List.map_cons, Text.trim_space_cons]

end SchemaText.Sql.Identifier
