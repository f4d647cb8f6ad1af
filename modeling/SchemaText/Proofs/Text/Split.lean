import SchemaText.Text.Split
/-! Texts put together from the parts into which they are cut. -/

namespace SchemaText.Text

variable {separates : Char → Bool}

theorem intercalate_cons (sep part : List Char) (parts : List (List Char)) :
    sep.intercalate (part :: parts) = part ++ parts.flatMap (sep ++ ·) := by
  induction parts generalizing part with
  | nil => simp [List.intercalate]
  | cons next parts ih =>
    rw [List.flatMap_cons, List.append_assoc, ← ih next]
    simp [List.intercalate, List.intersperse]

theorem intercalate_concat (sep : List Char) (parts : List (List Char)) (last : List Char) :
    sep.intercalate (parts ++ [last]) = parts.flatMap (· ++ sep) ++ last := by
  cases parts with
  | nil => simp [List.intercalate]
  | cons part parts =>
    rw [List.cons_append, intercalate_cons]
    induction parts generalizing part with
    | nil => simp
    | cons next parts ih => simpa [List.append_assoc] using ih next

theorem intercalate_cons_cons (sep : Char) (part next : List Char) (parts : List (List Char)) :
    [sep].intercalate (part :: next :: parts) =
      part ++ sep :: [sep].intercalate (next :: parts) := by
  rw [intercalate_cons, intercalate_cons]
  simp

theorem mem_intercalate {sep : List Char} {parts : List (List Char)} {c : Char}
    (h : c ∈ sep.intercalate parts) : c ∈ sep ∨ ∃ part ∈ parts, c ∈ part := by
  cases parts with
  | nil => simp [List.intercalate] at h
  | cons part parts =>
    rw [intercalate_cons, List.mem_append] at h
    rcases h with h | h
    · exact .inr ⟨part, by simp, h⟩
    · obtain ⟨other, ho, hc⟩ := List.mem_flatMap.1 h
      rcases List.mem_append.1 hc with hc | hc
      · exact .inl hc
      · exact .inr ⟨other, by simp [ho], hc⟩

theorem mem_intercalate_of_mem {sep part : List Char} {parts : List (List Char)}
    {c : Char} (h : part ∈ parts) (k : c ∈ part) : c ∈ sep.intercalate parts := by
  obtain ⟨front, back, rfl⟩ := List.append_of_mem h
  cases front with
  | nil =>
    rw [List.nil_append, intercalate_cons]
    exact List.mem_append_left _ k
  | cons first front =>
    rw [List.cons_append, intercalate_cons]
    refine List.mem_append_right _ (List.mem_flatMap.2 ⟨part, by simp, ?_⟩)
    exact List.mem_append_right _ k

theorem infix_or_infix_of_append_cons {p before rest : List Char} {c : Char} (hc : c ∉ p)
    (h : p <:+: before ++ c :: rest) : p <:+: before ∨ p <:+: rest := by
  rcases List.infix_append_iff.1 h with h | h | ⟨front, back, rfl, hfront, hback⟩
  · exact .inl h
  · rcases List.infix_cons_iff.1 h with h | h
    · rcases List.prefix_cons_iff.1 h with rfl | ⟨t, rfl, _⟩
      · exact .inl List.nil_infix
      · exact absurd List.mem_cons_self hc
    · exact .inr h
  · rcases List.prefix_cons_iff.1 hback with rfl | ⟨t, rfl, _⟩
    · rw [List.append_nil]
      exact .inl hfront.isInfix
    · exact absurd (List.mem_append_right _ List.mem_cons_self) hc

theorem exists_infix_of_intercalate {p : List Char} (hp : p ≠ []) {sep : Char} (hc : sep ∉ p)
    {parts : List (List Char)} (h : p <:+: [sep].intercalate parts) :
    ∃ part ∈ parts, p <:+: part := by
  induction parts with
  | nil => exact absurd (List.infix_nil.1 h) hp
  | cons part parts ih =>
    cases parts with
    | nil => exact ⟨part, List.mem_cons_self, by simpa [intercalate_cons] using h⟩
    | cons next parts =>
      rw [intercalate_cons_cons] at h
      rcases infix_or_infix_of_append_cons hc h with h | h
      · exact ⟨part, List.mem_cons_self, h⟩
      · obtain ⟨other, hm, ho⟩ := ih h
        exact ⟨other, List.mem_cons_of_mem _ hm, ho⟩

theorem split_eq_singleton {cs : List Char} (h : ∀ c ∈ cs, separates c = false) :
    split separates cs = [cs] := by
  induction cs with
  | nil => rfl
  | cons c cs ih =>
    rw [split_cons_of_not_separates (by simp [h c]), ih fun d hd => h d (by simp [hd])]
    rfl

theorem split_append_cons {sep : Char} (h : separates sep) (xs ys : List Char) :
    split separates (xs ++ sep :: ys) = split separates xs ++ split separates ys := by
  induction xs with
  | nil => simp [split_cons_of_separates h, split_nil]
  | cons c xs ih =>
    by_cases hc : separates c
    · simp [split_cons_of_separates hc, ih]
    · obtain ⟨first, others, hs⟩ := List.exists_cons_of_ne_nil (split_ne_nil separates xs)
      simp [split_cons_of_not_separates hc, ih, hs]

theorem split_intercalate {sep : Char} {parts : List (List Char)} (hne : parts ≠ [])
    (h : ∀ part ∈ parts, ∀ c ∈ part, (c == sep) = false) :
    split (· == sep) ([sep].intercalate parts) = parts := by
  induction parts with
  | nil => exact absurd rfl hne
  | cons part parts ih =>
    have hpart := split_eq_singleton (h part List.mem_cons_self)
    cases parts with
    | nil => simpa [intercalate_cons] using hpart
    | cons next parts =>
      rw [intercalate_cons_cons, split_append_cons (by simp), hpart,
        ih (List.cons_ne_nil _ _) fun other ho => h other (List.mem_cons_of_mem _ ho)]
      rfl

theorem split_listed {part : List Char} {parts : List (List Char)}
    (h : ∀ other ∈ part :: parts, ∀ c ∈ other, (c == ',') = false) :
    split (· == ',') (", ".toList.intercalate (part :: parts)) = part :: parts.map (' ' :: ·) := by
  induction parts generalizing part with
  | nil =>
    rw [intercalate_cons, List.flatMap_nil, List.append_nil,
      split_eq_singleton (h part List.mem_cons_self), List.map_nil]
  | cons next parts ih =>
    have ht : ", ".toList.intercalate (part :: next :: parts) =
        part ++ ',' :: (' ' :: ", ".toList.intercalate (next :: parts)) := by
      simp [List.intercalate]
    rw [ht, split_append_cons (by decide), split_eq_singleton (h part List.mem_cons_self),
      split_cons_of_not_separates (by decide),
      ih fun other ho => h other (List.mem_cons_of_mem _ ho)]
    rfl

theorem mem_of_mem_split {cs part : List Char} (h : part ∈ split separates cs) :
    ∀ c ∈ part, c ∈ cs := by
  induction cs generalizing part with
  | nil =>
    have hp : part = [] := by simpa [split_nil] using h
    simp [hp]
  | cons c cs ih =>
    by_cases hc : separates c
    · rw [split_cons_of_separates hc, List.mem_cons] at h
      rcases h with rfl | h
      · simp
      · exact fun d hd => List.mem_cons_of_mem _ (ih h d hd)
    · obtain ⟨first, others, hs⟩ := List.exists_cons_of_ne_nil (split_ne_nil separates cs)
      rw [split_cons_of_not_separates hc, hs, List.modifyHead_cons, List.mem_cons] at h
      rcases h with rfl | h
      · have hf : ∀ d ∈ first, d ∈ cs := ih (by simp [hs])
        intro d hd
        rcases List.mem_cons.1 hd with rfl | hd
        · simp
        · simp [hf d hd]
      · exact fun d hd => List.mem_cons_of_mem _ (ih (by simp [hs, h]) d hd)

theorem not_separates_of_mem_split {cs part : List Char} (h : part ∈ split separates cs) :
    ∀ c ∈ part, separates c = false := by
  induction cs generalizing part with
  | nil =>
    obtain rfl : part = [] := by simpa [split_nil] using h
    simp
  | cons c cs ih =>
    by_cases hc : separates c
    · rw [split_cons_of_separates hc, List.mem_cons] at h
      rcases h with rfl | h
      · simp
      · exact ih h
    · obtain ⟨first, others, hs⟩ := List.exists_cons_of_ne_nil (split_ne_nil separates cs)
      rw [split_cons_of_not_separates hc, hs, List.modifyHead_cons, List.mem_cons] at h
      rcases h with rfl | h
      · exact List.forall_mem_cons.2 ⟨by simpa using hc, ih (by simp [hs])⟩
      · exact ih (by simp [hs, h])

theorem intercalate_split (sep : Char) (cs : List Char) :
    [sep].intercalate (split (· == sep) cs) = cs := by
  induction cs with
  | nil => rfl
  | cons c cs ih =>
    obtain ⟨first, others, hs⟩ := List.exists_cons_of_ne_nil (split_ne_nil (· == sep) cs)
    rw [hs, intercalate_cons] at ih
    by_cases hc : c = sep
    · rw [split_cons_of_separates (by simp [hc]), hs, intercalate_cons, List.flatMap_cons]
      simpa [hc] using ih
    · rw [split_cons_of_not_separates (by simp [hc]), hs, List.modifyHead_cons, intercalate_cons]
      simpa using ih

section Located

variable {offset start : Nat} {part : List Char} {parts : List (List Char)}

theorem map_snd_located (offset : Nat) (parts : List (List Char)) :
    (located offset parts).map Prod.snd = parts := by
  induction parts generalizing offset with
  | nil => rfl
  | cons part parts ih => rw [located, List.map_cons, ih]

theorem mem_of_mem_located (h : (start, part) ∈ located offset parts) : part ∈ parts := by
  have hm := List.mem_map_of_mem h (f := Prod.snd)
  rwa [map_snd_located] at hm

theorem exists_of_mem_located (sep : Char) (h : (start, part) ∈ located offset parts) :
    ∃ front back, [sep].intercalate parts = front ++ (part ++ back) ∧
      start = offset + front.length ∧ (front = [] ∨ front.getLast? = some sep) ∧
      (back = [] ∨ back.head? = some sep) := by
  induction parts generalizing offset with
  | nil => cases h
  | cons first parts ih =>
    rcases List.mem_cons.1 h with h | h
    · obtain ⟨rfl, rfl⟩ := Prod.mk.inj h
      refine ⟨[], parts.flatMap ([sep] ++ ·), by rw [intercalate_cons, List.nil_append], rfl,
        .inl rfl, ?_⟩
      cases parts with
      | nil => exact .inl rfl
      | cons next parts => exact .inr rfl
    · cases parts with
      | nil => cases h
      | cons next parts =>
        obtain ⟨front, back, ht, ho, hf, hb⟩ := ih h
        refine ⟨first ++ sep :: front, back, ?_, ?_, .inr ?_, hb⟩
        · rw [intercalate_cons_cons, ht, List.append_assoc, List.cons_append]
        · rw [ho, List.length_append, List.length_cons]
          omega
        · rcases hf with rfl | hf
          · exact List.getLast?_concat
          · rw [List.getLast?_append, List.getLast?_cons, hf]
            rfl

theorem le_of_mem_located (h : (start, part) ∈ located offset parts) : offset ≤ start := by
  obtain ⟨front, _, _, ho, _⟩ := exists_of_mem_located ',' h
  omega

theorem pairwise_located (offset : Nat) (parts : List (List Char)) :
    (located offset parts).Pairwise fun a b => a.1 + a.2.length < b.1 := by
  induction parts generalizing offset with
  | nil => exact .nil
  | cons part parts ih =>
    refine List.pairwise_cons.2 ⟨fun b hb => ?_, ih _⟩
    have hle : offset + part.length + 1 ≤ b.1 := le_of_mem_located hb
    exact hle

theorem located_append (sep : Char) (offset : Nat) {first : List (List Char)} (h : first ≠ [])
    (parts : List (List Char)) :
    located offset (first ++ parts) =
      located offset first ++ located (offset + ([sep].intercalate first).length + 1) parts := by
  induction first generalizing offset with
  | nil => exact absurd rfl h
  | cons part first ih =>
    cases first with
    | nil => simp [located]
    | cons next first =>
      have hoffset : offset + part.length + 1 + ([sep].intercalate (next :: first)).length =
          offset + ([sep].intercalate (part :: next :: first)).length := by
        rw [intercalate_cons_cons, List.length_append, List.length_cons]
        omega
      rw [List.cons_append, located, ih _ (List.cons_ne_nil _ _), hoffset]
      rfl

theorem mem_located_split {sep : Char} {front back : List Char} (h : sep ∉ part)
    (hf : front = [] ∨ front.getLast? = some sep) (hb : back = [] ∨ back.head? = some sep)
    (offset : Nat) :
    (offset + front.length, part) ∈
      located offset (split (· == sep) (front ++ (part ++ back))) := by
  have hpart : split (· == sep) part = [part] :=
    split_eq_singleton fun c hc => beq_eq_false_iff_ne.2 fun he => h (he ▸ hc)
  obtain ⟨others, ho⟩ : ∃ others, split (· == sep) (part ++ back) = part :: others := by
    cases back with
    | nil => exact ⟨[], by rw [List.append_nil, hpart]⟩
    | cons c back =>
      obtain rfl : c = sep := by simpa using hb
      exact ⟨split (· == c) back, by rw [split_append_cons (by simp), hpart]; rfl⟩
  rcases hf with rfl | hf
  · rw [List.nil_append, ho]
    exact List.mem_cons_self
  · obtain ⟨before, rfl⟩ := List.getLast?_eq_some_iff.1 hf
    rw [List.append_assoc, List.singleton_append, split_append_cons (by simp), ho,
      located_append sep offset (split_ne_nil _ _), intercalate_split, List.length_append,
      List.length_singleton, ← Nat.add_assoc]
    exact List.mem_append_right _ List.mem_cons_self

end Located

end SchemaText.Text
