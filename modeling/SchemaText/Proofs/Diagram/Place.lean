import SchemaText.Diagram.Lexeme
import SchemaText.Proofs.Text.Trim
/-! Reading at a place of a text whose next characters are known. -/

namespace SchemaText.Diagram.Cursor

export Text (Stops stops_nil stops_cons takeWhile_append_of_stops)

def place (n : Nat) (rest : List Char) : Cursor :=
  ⟨n, rest, 0⟩

@[simp] theorem place_rest (n : Nat) (rest : List Char) : (place n rest).rest = rest := rfl

@[simp] theorem place_offset (n : Nat) (rest : List Char) : (place n rest).offset = n := rfl

@[simp] theorem peek_place_cons (n : Nat) (ch : Char) (rest : List Char) :
    (place n (ch :: rest)).peek = some ch := rfl

@[simp] theorem peek_place_nil (n : Nat) : (place n []).peek = none := rfl

@[simp] theorem atEnd_place_cons (n : Nat) (ch : Char) (rest : List Char) :
    (place n (ch :: rest)).atEnd = false := rfl

@[simp] theorem atEnd_place_nil (n : Nat) : (place n []).atEnd = true := rfl

@[simp] theorem stopsAt_place_cons (mark : Char) (n : Nat) (ch : Char) (rest : List Char) :
    (place n (ch :: rest)).stopsAt mark = (ch == mark) := by
  simp [stopsAt]

@[simp] theorem next_place_cons (n : Nat) (ch : Char) (rest : List Char) :
    (place n (ch :: rest)).next = place (n + 1) rest := rfl

theorem mark?_place_of_isMark (n : Nat) {ch : Char} (h : isMark ch) (rest : List Char) :
    (place n (ch :: rest)).mark? = some ch := by
  simp [mark?, h]

theorem mark?_place_of_stops (n : Nat) {rest : List Char} (h : Stops isMark rest) :
    (place n rest).mark? = none := by
  cases rest with
  | nil => rfl
  | cons ch rest => simpa [mark?] using h

theorem isComment_place_cons (n : Nat) {ch : Char} (h : ch ≠ '/') (rest : List Char) :
    (place n (ch :: rest)).isComment = false := by
  simp [isComment, List.isPrefixOf, h.symm]

theorem takeWhile_place {accepts : Char → Bool} {run rest : List Char} (n : Nat)
    (h : ∀ ch ∈ run, accepts ch) (k : Stops accepts rest) :
    (place n (run ++ rest)).takeWhile accepts = (run, place (n + run.length) rest) := by
  obtain ⟨ht, hd⟩ := takeWhile_append_of_stops h k
  simp only [takeWhile, place_rest, place_offset, ht, hd]
  rfl

theorem skipWhile_place {accepts : Char → Bool} {run rest : List Char} (n : Nat)
    (h : ∀ ch ∈ run, accepts ch) (k : Stops accepts rest) :
    (place n (run ++ rest)).skipWhile accepts = place (n + run.length) rest := by
  rw [skipWhile, takeWhile_place n h k]

theorem takeWhile_place_of_stops {accepts : Char → Bool} {rest : List Char} (n : Nat)
    (k : Stops accepts rest) : (place n rest).takeWhile accepts = ([], place n rest) := by
  have h : ∀ ch ∈ ([] : List Char), accepts ch := by simp
  exact takeWhile_place n h k

theorem skipWhile_place_of_stops {accepts : Char → Bool} {rest : List Char} (n : Nat)
    (k : Stops accepts rest) : (place n rest).skipWhile accepts = place n rest := by
  rw [skipWhile, takeWhile_place_of_stops n k]

theorem stops_skipWhile (accepts : Char → Bool) (c : Cursor) :
    Stops accepts (c.skipWhile accepts).rest := by
  intro ch hc
  have hr : c.rest.dropWhile accepts = (c.skipWhile accepts).rest := rfl
  have hd := List.head?_dropWhile_not accepts c.rest
  rw [hr, Option.mem_def.1 hc] at hd
  simpa using hd

theorem keyword_place (n : Nat) {word : String} {rest : List Char}
    (h : word.toList.all Char.isAlpha) (k : Stops Char.isAlpha rest) :
    (place n (word.toList ++ rest)).keyword = word := by
  rw [keyword, place_rest, (takeWhile_append_of_stops (List.all_eq_true.1 h) k).1,
    String.ofList_toList]

theorem skipKeyword_place (n : Nat) {word : String} {rest : List Char}
    (h : word.toList.all Char.isAlpha) (k : Stops Char.isAlpha rest) :
    (place n (word.toList ++ rest)).skipKeyword = place (n + word.toList.length) rest :=
  skipWhile_place n (List.all_eq_true.1 h) k

theorem skipBlank_place_of_stops (n : Nat) {rest : List Char} (h : Stops Text.isBlank rest) :
    (place n rest).skipBlank = place n rest :=
  skipWhile_place_of_stops n h

theorem skipBlank_place_cons (n : Nat) {ch : Char} (h : Text.isBlank ch) (rest : List Char) :
    (place n (ch :: rest)).skipBlank = (place (n + 1) rest).skipBlank := by
  simp [skipBlank, skipWhile, takeWhile, h, Nat.add_assoc, Nat.add_comm 1]

theorem skipBlank_place_space (n : Nat) {rest : List Char} (h : Stops Text.isBlank rest) :
    (place n (' ' :: rest)).skipBlank = place (n + 1) rest := by
  rw [skipBlank_place_cons n (by decide), skipBlank_place_of_stops _ h]

theorem skipOptional_place_colon (n : Nat) {rest : List Char} (h : Stops Text.isBlank rest) :
    (place n (':' :: ' ' :: rest)).skipOptional ':' = place (n + 2) rest := by
  have hb : (place n (':' :: ' ' :: rest)).skipBlank = place n (':' :: ' ' :: rest) :=
    skipBlank_place_of_stops n (by simpa using by decide)
  rw [skipOptional, hb]
  simp [skipBlank_place_cons _ (by decide : Text.isBlank ' '), skipBlank_place_of_stops _ h]

theorem skipBlank_skipKeyword_place (n : Nat) {word : String} {rest : List Char}
    (h : word.toList.all Char.isAlpha) (k : Stops Text.isBlank rest) :
    (place n (word.toList ++ ' ' :: rest)).skipKeyword.skipBlank =
      place (n + word.toList.length + 1) rest := by
  have hs : Stops Char.isAlpha (' ' :: rest) := stops_cons.2 (by decide)
  rw [skipKeyword_place n h hs, skipBlank_place_space _ k]

theorem skipInline_place_of_stops (n : Nat) {rest : List Char} (h : Stops Text.isBlank rest) :
    (place n rest).skipInline = place n rest := by
  refine skipWhile_place_of_stops n fun ch hc => ?_
  have hb : Text.isBlank ch = false := h ch hc
  rw [Bool.or_eq_false_iff, beq_eq_false_iff_ne, beq_eq_false_iff_ne]
  constructor
  · rintro rfl
    exact absurd hb (by decide)
  · rintro rfl
    exact absurd hb (by decide)

theorem skipInline_place_cons (n : Nat) (rest : List Char) :
    (place n (' ' :: rest)).skipInline = (place (n + 1) rest).skipInline := by
  simp [skipInline, skipWhile, takeWhile, Nat.add_assoc, Nat.add_comm 1]

theorem eat_place_cons (mark : Char) (n : Nat) (rest : List Char) :
    (place n (mark :: rest)).eat mark = place (n + 1) rest := by
  simp [eat]

theorem eat_skipWhile_place {accepts : Char → Bool} {run : List Char} {mark : Char} (n : Nat)
    (h : ∀ ch ∈ run, accepts ch) (k : accepts mark = false) (rest : List Char) :
    ((place n (run ++ mark :: rest)).skipWhile accepts).eat mark =
      place (n + run.length + 1) rest := by
  rw [skipWhile_place n h (stops_cons.2 k), eat_place_cons]

theorem skipEntry_place_newline (n : Nat) (rest : List Char) :
    (place n ('\n' :: rest)).skipEntry = place (n + 1) rest := by
  have h : ∀ ch ∈ ([] : List Char), decide (ch ≠ '\n') && decide (ch ≠ '}') := by simp
  exact eat_skipWhile_place n h (by decide) rest

theorem readQuoted_place {mark : Char} {content : List Char} (n : Nat) (h : mark ∉ content)
    (rest : List Char) :
    (place n (content ++ mark :: rest)).readQuoted mark =
      (content, place (n + content.length + 1) rest) := by
  have hc : ∀ ch ∈ content, decide (ch ≠ mark) := by
    intro ch hch
    simpa using fun k : ch = mark => h (k ▸ hch)
  have hm : Stops (fun ch => decide (ch ≠ mark)) (mark :: rest) := by simp
  rw [readQuoted, takeWhile_place n hc hm]
  simp only [eat_place_cons]

section Lists

variable {α ρ : Type}

def listTail (write : α → List Char) (entries : List α) : List Char :=
  entries.flatMap fun entry => ',' :: ' ' :: write entry

structure ReadsList (P : α → Prop) (write : α → List Char) (read : Cursor → ρ)
    (wrap : List α → Cursor → ρ) (close : List Char) (stop : Nat → Cursor) : Prop where
  last : ∀ n entry, P entry →
    read (place n (write entry ++ close)) = wrap [entry] (stop (n + (write entry).length))
  next : ∀ n entry following rest entries c, P entry →
    read (place (n + (write entry).length + 2) (write following ++ rest)) = wrap entries c →
    read (place n (write entry ++ ',' :: ' ' :: (write following ++ rest))) =
      wrap (entry :: entries) c

theorem ReadsList.read_place {P : α → Prop} {write : α → List Char} {read : Cursor → ρ}
    {wrap : List α → Cursor → ρ} {close : List Char} {stop : Nat → Cursor}
    (h : ReadsList P write read wrap close stop) (n : Nat) {entry : α} {entries : List α}
    (k : ∀ e ∈ entry :: entries, P e) :
    read (place n (write entry ++ (listTail write entries ++ close))) =
      wrap (entry :: entries) (stop (n + (write entry ++ listTail write entries).length)) := by
  induction entries generalizing n entry with
  | nil => simpa [listTail] using h.last n entry (k entry (by simp))
  | cons following entries ih =>
    have hw : listTail write (following :: entries) ++ close =
        ',' :: ' ' :: (write following ++ (listTail write entries ++ close)) := by
      simp [listTail]
    have hl : n + (write entry ++ listTail write (following :: entries)).length =
        n + (write entry).length + 2 + (write following ++ listTail write entries).length := by
      simp [listTail]
      omega
    have hi := ih (n + (write entry).length + 2) fun e he => k e (List.mem_cons_of_mem _ he)
    rw [hw, hl]
    exact h.next n entry following _ _ _ (k entry (by simp)) hi

end Lists

end SchemaText.Diagram.Cursor
