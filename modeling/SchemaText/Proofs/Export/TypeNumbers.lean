import SchemaText.Export.TypeName
import SchemaText.Proofs.Pattern.Admits
import SchemaText.Proofs.Text.Letter
import SchemaText.Proofs.Text.Split
/-! The numbers that a type is applied to: runs of digits with commas between them and blanks around
them. -/

namespace SchemaText.Export.TypeName

open Pattern
open Text (Stops stops_nil stops_cons isBlank isDigit within)

/-- A run of digits with blanks around it. -/
structure Argument where
  before : List Char
  digits : List Char
  behind : List Char
  blank_before : ∀ c ∈ before, isBlank c
  digits_ne : digits ≠ []
  digit : ∀ c ∈ digits, isDigit c
  blank_behind : ∀ c ∈ behind, isBlank c

namespace Argument

def chars (a : Argument) : List Char :=
  a.before ++ (a.digits ++ a.behind)

def value (a : Argument) : Nat :=
  Text.number a.digits

def IsReadable (a : Argument) : Prop :=
  (∀ c ∈ a.before ++ a.behind, isSeparator c = false) ∧ a.digits.length ≤ Fault.maxDigits

end Argument

/-- Arguments with commas between them. -/
def listed (arguments : List Argument) : List Char :=
  [','].intercalate (arguments.map Argument.chars)

section Digits

variable {c : Char}

theorem within_of_isDigit (h : isDigit c) :
    within (Text.digitZeros.map fun first => (first, first + 9)) c.toNat := by
  obtain ⟨value, hvalue⟩ := Option.isSome_iff_exists.1 h
  obtain ⟨first, hfirst, hv⟩ := List.exists_of_findSome?_eq_some hvalue
  split at hv
  · next hin =>
    simp only [Bool.and_eq_true, decide_eq_true_eq] at hin
    exact Text.within_eq_true_iff.2 ⟨_, List.mem_map_of_mem hfirst, hin⟩
  · cases hv

theorem isBlank_eq_false_of_isDigit (h : isDigit c) : isBlank c = false :=
  Text.apart_of_within (by decide +kernel) (within_of_isDigit h)

theorem isDigit_eq_false_of_isBlank (h : isBlank c) : isDigit c = false := by
  refine Bool.eq_false_iff.2 fun hd => ?_
  rw [isBlank_eq_false_of_isDigit hd] at h
  cases h

theorem isBlank_of_isSeparator (h : isSeparator c) : isBlank c := by
  simp only [isSeparator, Bool.and_eq_true, decide_eq_true_eq] at h
  exact Text.within_eq_true_iff.2 ⟨(28, 32), by decide, h.1, by omega⟩

end Digits

namespace Argument

variable (a : Argument)

theorem stops_isBlank (rest : List Char) : Stops isBlank (a.digits ++ rest) := by
  obtain ⟨c, digits, hc⟩ := List.exists_cons_of_ne_nil a.digits_ne
  rw [hc]
  exact stops_cons.2 (isBlank_eq_false_of_isDigit (a.digit c (by simp [hc])))

theorem stops_isDigit : Stops isDigit a.behind := by
  intro c hc
  exact isDigit_eq_false_of_isBlank (a.blank_behind c (List.mem_of_mem_head? hc))

theorem any_isSeparator :
    a.chars.any isSeparator = (a.before ++ a.behind).any isSeparator := by
  have hdigits : a.digits.any isSeparator = false := List.any_eq_false.2 fun c hc hs => by
    have hb := isBlank_eq_false_of_isDigit (a.digit c hc)
    rw [isBlank_of_isSeparator hs] at hb
    cases hb
  simp [chars, hdigits]

theorem readNumber_chars :
    readNumber a.chars =
      if a.before.any isSeparator then .error (.numberMalformed (shownText a.chars))
      else if Fault.maxDigits < a.digits.length then .error (.numberTooLong a.digits.length)
      else if (a.before ++ a.behind).any isSeparator then
        .error (.numberMalformed (shownText a.chars))
      else .ok a.value := by
  obtain ⟨htake, hdrop⟩ := Text.takeWhile_append_of_stops a.blank_before (a.stops_isBlank a.behind)
  have hdigits : (Text.trimStart a.chars).takeWhile isDigit = a.digits := by
    unfold Text.trimStart chars
    rw [hdrop]
    exact (Text.takeWhile_append_of_stops a.digit a.stops_isDigit).1
  have hblank : a.chars.takeWhile isBlank = a.before := htake
  unfold readNumber
  simp only [hdigits, hblank, a.any_isSeparator]
  rfl

variable {a}

theorem IsReadable.readNumber (h : a.IsReadable) : readNumber a.chars = .ok a.value := by
  obtain ⟨hs, hl⟩ := h
  have hany : (a.before ++ a.behind).any isSeparator = false :=
    List.any_eq_false.2 fun c hc => by simp [hs c hc]
  have hbefore : a.before.any isSeparator = false := by
    rw [List.any_append, Bool.or_eq_false_iff] at hany
    exact hany.1
  rw [a.readNumber_chars, hbefore, hany, if_neg (Nat.not_lt.2 hl)]
  rfl

theorem exists_fault (h : ¬ a.IsReadable) :
    ∃ fault, fault.kind = .value ∧ TypeName.readNumber a.chars = .error fault := by
  rw [a.readNumber_chars]
  split
  · exact ⟨_, rfl, rfl⟩
  · split
    · exact ⟨_, rfl, rfl⟩
    · next hl =>
      split
      · exact ⟨_, rfl, rfl⟩
      · next hs =>
        refine absurd ⟨fun c hc => ?_, Nat.not_lt.1 hl⟩ h
        simpa using List.any_eq_false.1 (Bool.eq_false_iff.2 hs) c hc

theorem isBlank_or_isDigit (a : Argument) : ∀ c ∈ a.chars, isBlank c ∨ isDigit c := by
  intro c hc
  unfold chars at hc
  simp only [List.mem_append] at hc
  rcases hc with hc | hc | hc
  · exact .inl (a.blank_before c hc)
  · exact .inr (a.digit c hc)
  · exact .inl (a.blank_behind c hc)

end Argument

section Lists

variable {arguments : List Argument}

theorem Argument.chars_ne_nil (a : Argument) : a.chars ≠ [] := by
  simp [chars, a.digits_ne]

def followed (more : List Argument) : List Char :=
  more.flatMap fun x => ',' :: x.chars

@[simp] theorem followed_nil : followed [] = [] := rfl

@[simp] theorem followed_cons (x : Argument) (more : List Argument) :
    followed (x :: more) = ',' :: (x.chars ++ followed more) := rfl

theorem listed_cons (a : Argument) (more : List Argument) :
    listed (a :: more) = a.chars ++ followed more := by
  unfold listed followed
  rw [List.map_cons, Text.intercalate_cons, List.flatMap_map]
  rfl

theorem close_notMem_listed (arguments : List Argument) : ')' ∉ listed arguments := by
  intro h
  rcases Text.mem_intercalate h with hc | ⟨part, hp, hc⟩
  · exact absurd hc (by decide)
  · obtain ⟨x, _, rfl⟩ := List.mem_map.1 hp
    exact absurd (x.isBlank_or_isDigit _ hc) (by decide)

theorem readArguments_listed (arguments : List Argument) :
    readArguments (listed arguments) = (arguments.map Argument.chars).mapM readNumber := by
  cases arguments with
  | nil => rfl
  | cons a more =>
    have hcommas : ∀ part ∈ (a :: more).map Argument.chars, ∀ c ∈ part, (c == ',') = false := by
      intro part hp
      obtain ⟨x, _, rfl⟩ := List.mem_map.1 hp
      intro c hc
      rw [beq_eq_false_iff_ne]
      rintro rfl
      exact absurd (x.isBlank_or_isDigit _ hc) (by decide)
    have hkeep : ((a :: more).map Argument.chars).filter (fun part => part ≠ []) =
        (a :: more).map Argument.chars := by
      refine List.filter_eq_self.2 fun part hp => ?_
      obtain ⟨x, _, rfl⟩ := List.mem_map.1 hp
      exact decide_eq_true x.chars_ne_nil
    unfold readArguments listed
    rw [Text.split_intercalate (by simp) hcommas, hkeep]

theorem readArguments_of_readable (h : ∀ a ∈ arguments, a.IsReadable) :
    readArguments (listed arguments) = .ok (arguments.map Argument.value) := by
  rw [readArguments_listed]
  induction arguments with
  | nil => rfl
  | cons a more ih =>
    rw [List.map_cons, List.mapM_cons, (h a List.mem_cons_self).readNumber,
      ih fun x hx => h x (List.mem_cons_of_mem _ hx)]
    rfl

theorem exists_fault_of_unreadable (h : ∃ a ∈ arguments, ¬ a.IsReadable) :
    ∃ fault, fault.kind = .value ∧ readArguments (listed arguments) = .error fault := by
  rw [readArguments_listed]
  induction arguments with
  | nil =>
    obtain ⟨_, hmem, _⟩ := h
    cases hmem
  | cons a more ih =>
    rw [List.map_cons, List.mapM_cons]
    by_cases ha : a.IsReadable
    · obtain ⟨x, hx, hu⟩ := h
      have hmore : x ∈ more := by
        rcases List.mem_cons.1 hx with rfl | hx
        · exact absurd ha hu
        · exact hx
      obtain ⟨fault, hkind, hf⟩ := ih ⟨x, hmore, hu⟩
      exact ⟨fault, hkind, by rw [ha.readNumber, hf]; rfl⟩
    · obtain ⟨fault, hkind, hf⟩ := Argument.exists_fault ha
      exact ⟨fault, hkind, by rw [hf]; rfl⟩

end Lists

section Matching

variable {s t : Spot} {arguments : List Argument}

def further : Pattern :=
  gap ++ char ',' ++ gap ++ oneOrMore isDigit

theorem admits_further (a x : Argument) (rest : List Char) :
    further.Admits (a.behind ++ [','] ++ x.before ++ x.digits) rest :=
  (((admits_most a.blank_behind _).append (admits_char ',' _)).append
    (admits_most x.blank_before _)).append (admits_oneOrMore x.digits_ne x.digit rest)

theorem exists_admits_more (a : Argument) (more : List Argument) (rest : List Char) :
    ∃ taken blanks, a.behind ++ followed more = taken ++ blanks ∧
      (∀ c ∈ blanks, isBlank c) ∧ (repeated further).Admits taken (blanks ++ rest) := by
  induction more generalizing a with
  | nil => exact ⟨[], a.behind, by simp, a.blank_behind, admits_repeated_nil _ _⟩
  | cons x more ih =>
    obtain ⟨taken, blanks, he, hb, ht⟩ := ih x
    refine ⟨_, blanks, ?_, hb, (admits_further a x (taken ++ (blanks ++ rest))).repeated_append
      (by simp) ht⟩
    simp [Argument.chars, he]

theorem admits_arguments (hne : arguments ≠ []) (rest : List Char) :
    TypeName.arguments.Admits (listed arguments) rest := by
  obtain ⟨a, more, rfl⟩ := List.exists_cons_of_ne_nil hne
  obtain ⟨taken, blanks, he, hb, ht⟩ := exists_admits_more a more rest
  have htext : listed (a :: more) = a.before ++ a.digits ++ taken ++ blanks := by
    simp only [listed_cons, Argument.chars, List.append_assoc, he]
  rw [htext]
  exact (((admits_most a.blank_before _).append (admits_oneOrMore a.digits_ne a.digit _)).append
    ht).append (admits_most hb rest)

theorem exists_of_gap (h : gap.Meets s t) :
    ∃ blanks, s.Spans blanks t ∧ ∀ c ∈ blanks, isBlank c := by
  obtain ⟨blanks, hs, hb, _⟩ := Spot.mem_run_iff.1 h
  exact ⟨blanks, hs, hb⟩

theorem exists_of_further (h : further.Meets s t) :
    ∃ behind before digits, s.Spans (behind ++ ',' :: (before ++ digits)) t ∧
      (∀ c ∈ behind, isBlank c) ∧ (∀ c ∈ before, isBlank c) ∧ digits ≠ [] ∧
      ∀ c ∈ digits, isDigit c := by
  obtain ⟨u, ⟨v, ⟨w, hbehind, hcomma⟩, hbefore⟩, hdigits⟩ := h
  obtain ⟨behind, hsw, hb⟩ := exists_of_gap hbehind
  obtain ⟨c, rest, hr, hc, rfl⟩ := hcomma
  obtain rfl : c = ',' := beq_iff_eq.1 hc
  obtain ⟨before, hvu, hb'⟩ := exists_of_gap hbefore
  obtain ⟨digits, hut, hne, hd⟩ := oneOrMore_meets hdigits
  refine ⟨behind, before, digits, ?_, hb, hb', hne, hd⟩
  have hspans := ((hsw.trans (Spot.spans_after hr)).trans hvu).trans hut
  simpa only [List.append_assoc, List.singleton_append, List.cons_append,
    List.nil_append] using hspans

theorem exists_of_rounds (h : Rounds further.Meets s t) :
    ∃ taken, s.Spans taken t ∧ ∀ a : Argument, a.behind = [] →
      ∀ blanks : List Char, (∀ c ∈ blanks, isBlank c) →
        ∃ arguments, arguments ≠ [] ∧ a.chars ++ (taken ++ blanks) = listed arguments := by
  induction h with
  | stop s =>
    refine ⟨[], Spot.Spans.refl s, fun a ha blanks hb => ?_⟩
    refine ⟨[{ a with behind := blanks, blank_behind := hb }], by simp, ?_⟩
    simp [listed_cons, Argument.chars, ha]
  | next hstep _ _ ih =>
    obtain ⟨behind, before, digits, hs, hbehind, hbefore, hne, hd⟩ := exists_of_further hstep
    obtain ⟨taken, htaken, hmore⟩ := ih
    refine ⟨_, hs.trans htaken, fun a ha blanks hb => ?_⟩
    let x : Argument := ⟨before, digits, [], hbefore, hne, hd, by simp⟩
    obtain ⟨arguments, hargs, he⟩ := hmore x rfl blanks hb
    obtain ⟨y, more, rfl⟩ := List.exists_cons_of_ne_nil hargs
    refine ⟨{ a with behind := behind, blank_behind := hbehind } :: y :: more, by simp, ?_⟩
    rw [listed_cons, followed_cons, ← listed_cons, ← he]
    simp [x, Argument.chars, ha]

theorem exists_listed (h : TypeName.arguments.Meets s t) :
    ∃ arguments, arguments ≠ [] ∧ s.Spans (listed arguments) t := by
  obtain ⟨u, ⟨v, ⟨w, hbefore, hdigits⟩, hrounds⟩, hbehind⟩ := h
  obtain ⟨before, hsw, hb⟩ := exists_of_gap hbefore
  obtain ⟨digits, hwv, hne, hd⟩ := oneOrMore_meets hdigits
  obtain ⟨taken, hvu, hmore⟩ := exists_of_rounds hrounds
  obtain ⟨behind, hut, hb'⟩ := exists_of_gap hbehind
  obtain ⟨arguments, hargs, he⟩ := hmore ⟨before, digits, [], hb, hne, hd, by simp⟩ rfl behind hb'
  refine ⟨arguments, hargs, ?_⟩
  rw [← he]
  have hspans := ((hsw.trans hwv).trans hvu).trans hut
  simpa only [Argument.chars, List.append_assoc, List.append_nil, List.nil_append] using hspans

end Matching

end SchemaText.Export.TypeName
