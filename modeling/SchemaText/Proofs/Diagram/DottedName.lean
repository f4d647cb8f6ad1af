import SchemaText.Proofs.Diagram.Quotation
import SchemaText.Proofs.Text.Split
/-! Dotted names, written part by part and read back. A run of unquoted parts is read at once, so
the reader and the writer do not take the same steps. -/

namespace SchemaText.Diagram.Cursor

/-- A name ends at the end of the text and before a blank. -/
def EndsName (rest : List Char) : Prop :=
  Stops (fun ch => !Text.isBlank ch) rest

@[simp] theorem endsName_nil : EndsName [] := stops_nil _

@[simp] theorem endsName_cons {ch : Char} {rest : List Char} :
    EndsName (ch :: rest) ↔ Text.isBlank ch := by
  simp [EndsName]

theorem EndsName.stops {rest : List Char} (h : EndsName rest) {accepts : Char → Bool}
    (k : ∀ ch, Text.isBlank ch → accepts ch = false) : Stops accepts rest := by
  cases rest with
  | nil => exact stops_nil _
  | cons ch rest => exact stops_cons.2 (k ch (endsName_cons.1 h))

theorem EndsName.stops_isMark {rest : List Char} (h : EndsName rest) : Stops isMark rest := by
  refine h.stops fun ch hc => ?_
  rw [← Bool.not_eq_true]
  intro hm
  simp [isBlank_eq_false_of_isMark hm] at hc

theorem EndsName.stops_isBare {rest : List Char} (h : EndsName rest) : Stops isBare rest := by
  refine h.stops fun ch hc => ?_
  rw [← Bool.not_eq_true, isBare_iff]
  rintro (hp | rfl)
  · simp [isBlank_eq_false_of_isPlain hp] at hc
  · exact absurd hc (by decide)

theorem EndsName.peek_ne_dot {rest : List Char} (h : EndsName rest) (n : Nat) :
    (place n rest).peek ≠ some '.' := by
  cases rest with
  | nil => simp
  | cons ch rest =>
    have hc := endsName_cons.1 h
    rintro ⟨⟩
    exact absurd hc (by decide)

theorem peek_ne_dot_of_mark? {c : Cursor} {mark : Char} (h : c.mark? = some mark) :
    c.peek ≠ some '.' := by
  intro hp
  simp only [mark?, hp, Option.filter_eq_some_iff, Option.some.injEq] at h
  obtain ⟨rfl, h⟩ := h
  exact absurd h (by decide)

theorem readNameTail_of_endsName {rest : List Char} (h : EndsName rest) (n : Nat)
    (dotted : Bool) : (place n rest).readNameTail dotted = ([], place n rest) := by
  rw [readNameTail, dif_neg (h.peek_ne_dot n),
    dif_neg (by simp [mark?_place_of_stops n h.stops_isMark])]

def writtenParts (parts : List (List Char)) : List Char :=
  parts.flatMap fun part => '.' :: renderNameChars part

def joinedParts (parts : List (List Char)) : List Char :=
  parts.flatMap ('.' :: ·)

theorem endsInDot_append_cons (xs : List Char) (c : Char) (ys : List Char) :
    endsInDot (xs ++ c :: ys) = endsInDot (c :: ys) := by
  simp [endsInDot, List.getLast?_cons]

theorem stops_isBare_renderNameChars {cs : List Char} (h : ¬ isPlainName cs) (rest : List Char) :
    Stops isBare (renderNameChars cs ++ rest) := by
  simp [renderNameChars_of_not_isPlainName h, isBare_eq_false_of_isMark (isMark_markFor cs)]

theorem takeWhile_isBare_append (n : Nat) {cs : List Char} (h : ∀ ch ∈ cs, isBare ch)
    (rest : List Char) :
    (place n (cs ++ rest)).takeWhile isBare =
      (cs ++ ((place (n + cs.length) rest).takeWhile isBare).1,
        ((place (n + cs.length) rest).takeWhile isBare).2) := by
  simp [takeWhile, List.takeWhile_append_of_pos h, List.dropWhile_append_of_pos h, Nat.add_assoc]

theorem isBare_of_isPlainName {cs : List Char} (h : isPlainName cs) : ∀ ch ∈ cs, isBare ch := by
  simp only [isPlainName, Bool.and_eq_true, List.all_eq_true] at h
  exact fun ch hc => isBare_of_isPlain (h.2 ch hc)

theorem readName_of_isPlainName (n : Nat) {cs : List Char} (h : isPlainName cs)
    (rest : List Char) :
    (place n (cs ++ rest)).readName =
      (cs ++ ((place (n + cs.length) rest).takeWhile isBare).1,
        ((place (n + cs.length) rest).takeWhile isBare).2) := by
  have hb := isBare_of_isPlainName h
  have hm : (place n (cs ++ rest)).mark? = none := by
    cases cs with
    | nil => simp [isPlainName] at h
    | cons ch cs =>
      have hc := isMark_eq_false_of_isBare (hb ch (by simp))
      exact mark?_place_of_stops n (by simpa using hc)
  rw [readName, hm]
  exact takeWhile_isBare_append n hb rest

theorem readName_of_not_isPlainName (n : Nat) {cs : List Char} (h : ¬ isPlainName cs)
    (hq : Quotable cs) (rest : List Char) :
    (place n (renderNameChars cs ++ rest)).readName =
      (cs, place (n + (renderNameChars cs).length) rest) := by
  rw [renderNameChars_of_not_isPlainName h]
  exact readName_quoteChars n hq rest

theorem continues_renderNameChars (n : Nat) (cs rest : List Char) :
    (place n (renderNameChars cs ++ rest)).continues := by
  obtain ⟨ch, tail, hc, ho⟩ := exists_renderNameChars_eq_cons cs
  simp [hc, continues, isBlank_eq_false_of_opensName ho]

theorem writtenParts_cons_append (part : List Char) (parts : List (List Char)) (rest : List Char) :
    writtenParts (part :: parts) ++ rest =
      '.' :: (renderNameChars part ++ (writtenParts parts ++ rest)) := by
  simp [writtenParts]

theorem joinedParts_cons (part : List Char) (parts : List (List Char)) :
    joinedParts (part :: parts) = '.' :: (part ++ joinedParts parts) := rfl

theorem add_length_writtenParts_cons (n : Nat) (part : List Char) (parts : List (List Char)) :
    n + (writtenParts (part :: parts)).length =
      n + 1 + (renderNameChars part).length + (writtenParts parts).length := by
  simp [writtenParts]
  omega

theorem readNameTail_dot (n : Nat) (dotted : Bool) (cs rest : List Char) :
    (place n ('.' :: (renderNameChars cs ++ rest))).readNameTail dotted =
      let part := (place (n + 1) (renderNameChars cs ++ rest)).readName
      let tail := part.2.readNameTail (endsInDot ('.' :: part.1))
      ('.' :: part.1 ++ tail.1, tail.2) := by
  rw [readNameTail, dif_pos (peek_place_cons ..), next_place_cons,
    if_pos (continues_renderNameChars ..)]

structure ReadsParts (parts : List (List Char)) (rest : List Char) : Prop where
  ofTail : ∀ n dotted, (place n (writtenParts parts ++ rest)).readNameTail dotted =
    (joinedParts parts, place (n + (writtenParts parts).length) rest)
  ofRun : ∀ n before run, (place n (writtenParts parts ++ rest)).takeWhile isBare = run →
    run.1 ++ (run.2.readNameTail (endsInDot (before ++ run.1))).1 = joinedParts parts ∧
    (run.2.readNameTail (endsInDot (before ++ run.1))).2 =
      place (n + (writtenParts parts).length) rest

theorem readsParts_nil {rest : List Char} (k : EndsName rest) : ReadsParts [] rest where
  ofTail := readNameTail_of_endsName k
  ofRun := by
    rintro n before run rfl
    simp [writtenParts, joinedParts, takeWhile_place_of_stops n k.stops_isBare,
      readNameTail_of_endsName k]

theorem ReadsParts.cons_of_isPlainName {part : List Char} {parts : List (List Char)}
    {rest : List Char} (h : ReadsParts parts rest) (hp : isPlainName part) :
    ReadsParts (part :: parts) rest where
  ofTail n dotted := by
    rw [writtenParts_cons_append, joinedParts_cons, add_length_writtenParts_cons, readNameTail_dot,
      renderNameChars_of_isPlainName hp, readName_of_isPlainName (n + 1) hp]
    generalize hrun : (place (n + 1 + part.length) (writtenParts parts ++ rest)).takeWhile
      isBare = run
    obtain ⟨hb, he⟩ := h.ofRun _ ('.' :: part) run hrun
    simp only [List.cons_append] at hb he
    simp only [List.cons_append, List.append_assoc, hb, he]
  ofRun := by
    rintro n before run rfl
    have hd : ∀ ch ∈ '.' :: part, isBare ch := by
      simpa using ⟨(by decide : isBare '.'), isBare_of_isPlainName hp⟩
    have ht := takeWhile_isBare_append n hd (writtenParts parts ++ rest)
    generalize hrun : (place (n + ('.' :: part).length) (writtenParts parts ++ rest)).takeWhile
      isBare = run at ht
    obtain ⟨hb, he⟩ := h.ofRun _ (before ++ '.' :: part) run hrun
    rw [writtenParts_cons_append, joinedParts_cons, add_length_writtenParts_cons,
      renderNameChars_of_isPlainName hp]
    simp only [List.cons_append, List.append_assoc] at ht hb he ⊢
    simp only [ht, List.cons_append, List.append_assoc, hb, he]
    simp [Nat.add_assoc, Nat.add_comm 1]

theorem readNameTail_run_quoted (n : Nat) (before : List Char) {cs : List Char}
    (hp : ¬ isPlainName cs) (hq : Quotable cs) (rest : List Char) :
    (place n ('.' :: (renderNameChars cs ++ rest))).takeWhile isBare =
        (['.'], place (n + 1) (renderNameChars cs ++ rest)) ∧
      (place (n + 1) (renderNameChars cs ++ rest)).readNameTail (endsInDot (before ++ ['.'])) =
        let tail := (place (n + 1 + (renderNameChars cs).length) rest).readNameTail
          (endsInDot ('.' :: cs))
        (cs ++ tail.1, tail.2) := by
  have hd : ∀ ch ∈ ['.'], isBare ch := by simp [isBare]
  have hr := renderNameChars_of_not_isPlainName hp
  have hm : (place (n + 1) (renderNameChars cs ++ rest)).mark? = some (markFor cs) := by
    rw [hr, List.cons_append, mark?_place_of_isMark _ (isMark_markFor cs)]
  have he : endsInDot (before ++ ['.']) = true := by
    rw [endsInDot_append_cons]
    rfl
  refine ⟨takeWhile_place n hd (stops_isBare_renderNameChars hp rest), ?_⟩
  rw [he, readNameTail, dif_neg (peek_ne_dot_of_mark? hm), dif_pos (by simp [hm]),
    readName_of_not_isPlainName _ hp hq]

theorem ReadsParts.cons_of_not_isPlainName {part : List Char} {parts : List (List Char)}
    {rest : List Char} (h : ReadsParts parts rest) (hp : ¬ isPlainName part)
    (hq : Quotable part) : ReadsParts (part :: parts) rest where
  ofTail n dotted := by
    rw [writtenParts_cons_append, joinedParts_cons, add_length_writtenParts_cons, readNameTail_dot,
      readName_of_not_isPlainName _ hp hq]
    simp only [h.ofTail, List.cons_append]
  ofRun := by
    rintro n before run rfl
    obtain ⟨hrun, htail⟩ := readNameTail_run_quoted n before hp hq (writtenParts parts ++ rest)
    rw [writtenParts_cons_append, joinedParts_cons, add_length_writtenParts_cons, hrun]
    simp only [htail, h.ofTail, List.cons_append, List.nil_append, and_self]

theorem readsParts {parts : List (List Char)} (h : ∀ part ∈ parts, Quotable part)
    {rest : List Char} (k : EndsName rest) : ReadsParts parts rest := by
  induction parts with
  | nil => exact readsParts_nil k
  | cons part parts ih =>
    have hparts := ih fun p hp => h p (List.mem_cons_of_mem _ hp)
    by_cases hp : isPlainName part
    · exact hparts.cons_of_isPlainName hp
    · exact hparts.cons_of_not_isPlainName hp (h part List.mem_cons_self)

theorem readQualifiedName_place (n : Nat) {cs : List Char} (h : QuotableParts cs)
    {rest : List Char} (k : EndsName rest) :
    (place n (renderQualifiedNameChars cs ++ rest)).readQualifiedName =
      (cs, place (n + (renderQualifiedNameChars cs).length) rest) := by
  obtain ⟨part, parts, hs⟩ := List.exists_cons_of_ne_nil (Text.split_ne_nil (· == '.') cs)
  have hc : part ++ joinedParts parts = cs := by
    rw [← Text.intercalate_split '.' cs, hs, Text.intercalate_cons]
    rfl
  have hw : renderQualifiedNameChars cs = renderNameChars part ++ writtenParts parts := by
    rw [renderQualifiedNameChars, hs, List.map_cons, Text.intercalate_cons]
    simp [writtenParts, List.flatMap_map]
  have hq : ∀ p ∈ parts, Quotable p := fun p hp => h p (by simp [hs, hp])
  have hparts := readsParts hq k
  rw [hw, List.append_assoc, List.length_append, ← Nat.add_assoc]
  -- A bare first part runs on into the parts behind it, and a quoted one ends by itself.
  by_cases hp : isPlainName part
  · rw [readQualifiedName, renderNameChars_of_isPlainName hp, readName_of_isPlainName n hp]
    generalize hrun : (place (n + part.length) (writtenParts parts ++ rest)).takeWhile
      isBare = run
    obtain ⟨hb, he⟩ := hparts.ofRun _ part run hrun
    simp only [List.append_assoc, hb, he, hc]
  · rw [readQualifiedName, readName_of_not_isPlainName n hp (h part (by simp [hs]))]
    simp only [hparts.ofTail, hc]

theorem stops_renderQualifiedNameChars {accepts : Char → Bool}
    (h : ∀ ch, opensName ch → accepts ch = false) (cs rest : List Char) :
    Stops accepts (renderQualifiedNameChars cs ++ rest) := by
  obtain ⟨part, parts, hs⟩ := List.exists_cons_of_ne_nil (Text.split_ne_nil (· == '.') cs)
  rw [renderQualifiedNameChars, hs, List.map_cons, Text.intercalate_cons, List.append_assoc]
  exact stops_renderNameChars h part _

end SchemaText.Diagram.Cursor
