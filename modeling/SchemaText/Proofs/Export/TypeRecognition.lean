import SchemaText.Proofs.Export.KnownType
import SchemaText.Proofs.Export.TypeNumbers
import SchemaText.Proofs.Export.TypeSpelling
/-! The texts that name a known type, and what is made of them and of all other texts. -/

namespace SchemaText.Export.TypeName

open Pattern
open Sql.Core (enclosed)
open Text (Stops stops_nil stops_cons isBlank isWord Firm)

def parenthesised : List Argument → List Char
  | [] => []
  | a :: more => enclosed (listed (a :: more))

/-- A name, perhaps with arguments in parentheses, and blanks around these parts. -/
structure Application where
  before : List Char
  name : List Char
  behind : List Char
  arguments : List Argument
  after : List Char
  blank_before : ∀ c ∈ before, isBlank c
  blank_behind : ∀ c ∈ behind, isBlank c
  blank_after : ∀ c ∈ after, isBlank c

def Application.chars (a : Application) : List Char :=
  a.before ++ (a.name ++ (a.behind ++ (parenthesised a.arguments ++ a.after)))

def Names (type : String) (make : List Nat → DataType) (arguments : List Argument) : Prop :=
  ∃ (a : Application) (key : String), type.toList = a.chars ∧ Spells a.name key.toList ∧
    maker? key = some make ∧ a.arguments = arguments

def IsUnreadable (type : String) : Prop :=
  ∃ a : Application, type.toList = a.chars ∧ IsName a.name ∧ ∃ x ∈ a.arguments, ¬ x.IsReadable

/-- What the text of a type is read as: the known types are those that the text names, with the
numbers that it lists, and every other text is a raw type as it stands. -/
structure Recognised (enumerations : List Enumeration) (type : String) : Prop where
  known_iff : ∀ t : DataType, read enumerations type = .ok t ∧ t.isKnown ↔
    ∃ make arguments, Names type make arguments ∧ (∀ x ∈ arguments, x.IsReadable) ∧
      t = make (arguments.map Argument.value)
  raw_iff : read enumerations type = .ok (.raw type) ↔
    (∀ make arguments, ¬ Names type make arguments) ∧ ¬ IsUnreadable type
  fails_iff : (∃ fault, fault.kind = .value ∧ read enumerations type = .error fault) ↔
    IsUnreadable type

section Parts

variable {name : List Char} (a : Application)

theorem open_notMem_of_isBlank {cs : List Char} (h : ∀ c ∈ cs, isBlank c) : '(' ∉ cs :=
  fun hc => absurd (h _ hc) (by decide)

theorem IsName.open_notMem (h : IsName name) : '(' ∉ name :=
  fun hc => absurd (h.all _ hc) (by decide)

theorem Application.exists_parts (h : IsName a.name) :
    ∃ blanks, (∀ c ∈ blanks, isBlank c) ∧
      a.chars.takeWhile (· ≠ '(') = a.before ++ (a.name ++ blanks) ∧
      ((a.chars.dropWhile (· ≠ '(')).drop 1).takeWhile (· ≠ ')') = listed a.arguments := by
  have hbefore := open_notMem_of_isBlank a.blank_before
  have hbehind := open_notMem_of_isBlank a.blank_behind
  have hafter := open_notMem_of_isBlank a.blank_after
  have hopen {cs : List Char} (hc : '(' ∉ cs) : ∀ c ∈ cs, decide (c ≠ '(') := fun c hm =>
    decide_eq_true (ne_of_mem_of_not_mem hm hc)
  unfold chars
  cases hargs : a.arguments with
  | nil =>
    refine ⟨a.behind ++ a.after, ?_, ?_⟩
    · intro c hc
      exact (List.mem_append.1 hc).elim (a.blank_behind c) (a.blank_after c)
    · have hrun : ∀ c ∈ a.before ++ (a.name ++ (a.behind ++ a.after)), decide (c ≠ '(') :=
        hopen (by simp [hbefore, h.open_notMem, hbehind, hafter])
      have hcut := Text.takeWhile_append_of_stops hrun (stops_nil _)
      rw [List.append_nil] at hcut
      rw [parenthesised, List.nil_append, hcut.1, hcut.2]
      exact ⟨rfl, rfl⟩
  | cons x more =>
    refine ⟨a.behind, a.blank_behind, ?_⟩
    have hrun : ∀ c ∈ a.before ++ (a.name ++ a.behind), decide (c ≠ '(') :=
      hopen (by simp [hbefore, h.open_notMem, hbehind])
    have hinner : ∀ c ∈ listed (x :: more), decide (c ≠ ')') := fun c hm =>
      decide_eq_true (ne_of_mem_of_not_mem hm (close_notMem_listed _))
    have htext : a.before ++ (a.name ++ (a.behind ++ (parenthesised (x :: more) ++ a.after))) =
        (a.before ++ (a.name ++ a.behind)) ++ '(' :: (listed (x :: more) ++ ')' :: a.after) := by
      simp [parenthesised, enclosed]
    have hstops (rest : List Char) : Stops (fun c => decide (c ≠ '(')) ('(' :: rest) :=
      stops_cons.2 (by decide)
    have hcut := Text.takeWhile_append_of_stops hrun (hstops (listed (x :: more) ++ ')' :: a.after))
    rw [htext, hcut.1, hcut.2]
    exact ⟨rfl, (Text.takeWhile_append_of_stops hinner (stops_cons.2 (by decide))).1⟩

end Parts

section Unique

variable {a b : Application}

theorem Application.trim_takeWhile (a : Application) (h : IsName a.name) :
    Text.trim (a.chars.takeWhile (· ≠ '(')) = Text.trim a.name := by
  obtain ⟨blanks, hb, htake, _⟩ := a.exists_parts h
  obtain ⟨core, n, hname, hcore⟩ := h.exists_firm
  have hbehind : (List.replicate n ' ' ++ blanks).all isBlank := by
    rw [List.all_append, Text.all_isBlank_replicate, List.all_eq_true.2 hb]
    rfl
  rw [htake, hname, List.append_assoc,
    hcore.trim_between (List.all_eq_true.2 a.blank_before) hbehind,
    hcore.trim_append (Text.all_isBlank_replicate n)]

theorem listed_eq_of_chars_eq (ha : IsName a.name) (hb : IsName b.name) (h : a.chars = b.chars) :
    listed a.arguments = listed b.arguments := by
  obtain ⟨_, _, _, hx⟩ := a.exists_parts ha
  obtain ⟨_, _, _, hy⟩ := b.exists_parts hb
  rw [← hx, ← hy, h]

theorem normalise_eq_of_spells {key : String} (hs : Spells a.name key.toList)
    (hk : isKnownName key.toList) (hb : IsName b.name) (h : a.chars = b.chars) :
    normalise b.name = key := by
  obtain ⟨core, n, hname, hcore⟩ := hb.exists_firm
  have htrim : Text.trim b.name = core := by
    rw [hname, hcore.trim_append (Text.all_isBlank_replicate n)]
  have hsame : core = a.name := by
    rw [← htrim, ← b.trim_takeWhile hb, ← h, a.trim_takeWhile (hs.isName hk), (hs.firm hk).trim]
  rw [hname, hsame, hs.normalise hk, String.ofList_toList]

end Unique

section Matching

variable {s t : Spot} {text : List Char}

def namePattern : Pattern :=
  one (fun c => Text.isLatinLetter c || c == '_') ++ fewest fun c => isWord c || c == ' '

def argumentsPart : Pattern :=
  optional (char '(' ++ group "args" arguments ++ char ')')

theorem IsName.admits {name : List Char} (h : IsName name) (rest : List Char) :
    namePattern.Admits name rest := by
  obtain ⟨c, cs, rfl, hc⟩ := h.head
  exact (admits_one hc _).append
    (admits_fewest (fun d hd => h.all d (List.mem_cons_of_mem _ hd)) rest)

theorem admits_argumentsPart (arguments : List Argument) (rest : List Char) :
    argumentsPart.Admits (parenthesised arguments) rest := by
  cases arguments with
  | nil => exact admits_optional_nil _ rest
  | cons x more =>
    exact (((admits_char '(' _).append ((admits_arguments (List.cons_ne_nil x more) _).group
      "args")).append (admits_char ')' rest)).optional

theorem Application.admits (a : Application) (h : IsName a.name) : pattern.Admits a.chars [] := by
  have hall : pattern.Admits
      (a.before ++ a.name ++ a.behind ++ parenthesised a.arguments ++ a.after) [] :=
    ((((admits_most a.blank_before _).append ((h.admits _).group "name")).append
      (admits_most a.blank_behind _)).append (admits_argumentsPart a.arguments _)).append
        (admits_most a.blank_after [])
  simpa only [chars, List.append_assoc] using hall

theorem exists_name (h : namePattern.Meets s t) : ∃ name, s.Spans name t ∧ IsName name := by
  obtain ⟨u, ⟨c, rest, hr, hc, rfl⟩, hmore⟩ := h
  obtain ⟨more, hs, hall, _⟩ := Spot.mem_run_iff.1 hmore
  refine ⟨c :: more, (Spot.spans_after hr).trans hs, ⟨c, more, rfl, hc⟩,
    List.forall_mem_cons.2 ⟨?_, hall⟩⟩
  rcases Bool.or_eq_true_iff.1 hc with hl | hu
  · rw [Text.isWord_of_isLatinLetter hl]
    rfl
  · rw [beq_iff_eq.1 hu]
    decide

theorem exists_argumentsPart (h : argumentsPart.Meets s t) (k : s.text? "args" = none) :
    ∃ arguments, s.Spans (parenthesised arguments) t ∧
      (t.text? "args").getD [] = listed arguments := by
  rcases h with ⟨v, ⟨u, ⟨c, rest, hr, hc, rfl⟩, w, harguments, rfl⟩, d, rest', hr', hd, rfl⟩ | rfl
  · obtain rfl : c = '(' := beq_iff_eq.1 hc
    obtain rfl : d = ')' := beq_iff_eq.1 hd
    obtain ⟨arguments, hne, hs⟩ := exists_listed harguments
    obtain ⟨x, more, rfl⟩ := List.exists_cons_of_ne_nil hne
    refine ⟨x :: more, ?_, ?_⟩
    · have hspans := ((Spot.spans_after hr).trans (hs.capture "args")).trans (Spot.spans_after hr')
      exact hspans
    · have htext := Spot.text?_capture hs "args"
      change ((w.capture "args" _).text? "args").getD [] = _
      rw [htext]
      rfl
  · exact ⟨[], Spot.Spans.refl _, by rw [k]; rfl⟩

theorem exists_application {m : Match} (h : pattern.matchWhole text = some m) :
    ∃ b : Application, text = b.chars ∧ IsName b.name ∧ m.text "name" = b.name ∧
      m.text "args" = listed b.arguments := by
  obtain ⟨t, ht, hend, rfl⟩ := exists_meets_of_matchWhole h
  obtain ⟨z, ⟨y, hfront, hpart⟩, hafter⟩ := ht
  have hargs : y.text? "args" = none := Meets.text?_eq hfront (by decide)
  obtain ⟨x, ⟨w, hbefore, v, hname, rfl⟩, hbehind⟩ := hfront
  obtain ⟨before, hsw, hb⟩ := exists_of_gap hbefore
  obtain ⟨name, hwv, hn⟩ := exists_name hname
  obtain ⟨behind, hvy, hb'⟩ := exists_of_gap hbehind
  obtain ⟨arguments, hyz, hlisted⟩ := exists_argumentsPart hpart hargs
  obtain ⟨after, hzt, hb''⟩ := exists_of_gap hafter
  refine ⟨⟨before, name, behind, arguments, after, hb, hb', hb''⟩, ?_, hn, ?_, ?_⟩
  · have hspans := (((hsw.trans (hwv.capture "name")).trans hvy).trans hyz).trans hzt
    have hrest := hspans.rest
    rw [hend, List.append_nil] at hrest
    simpa only [Application.chars, List.append_assoc] using hrest
  · rw [text_matchOf, Meets.text?_eq hafter (by decide), Meets.text?_eq hpart (by decide),
      Meets.text?_eq hbehind (by decide), Spot.text?_capture hwv]
    rfl
  · rw [text_matchOf, Meets.text?_eq hafter (by decide), hlisted]

end Matching

section Reading

variable {type : String} {make : List Nat → DataType} {arguments : List Argument}

theorem exists_read {a : Application} (h : IsName a.name) (ht : type.toList = a.chars) :
    ∃ b : Application, a.chars = b.chars ∧ IsName b.name ∧
      readNamed type = readArguments (listed b.arguments) >>= fun numbers =>
        .ok (((maker? (normalise b.name)).map (· numbers)).getD (.raw type)) := by
  have hsome := (a.admits h).isSome_matchWhole
  rw [← ht] at hsome
  obtain ⟨m, hm⟩ := Option.isSome_iff_exists.1 hsome
  obtain ⟨b, hb, hn, hname, hargs⟩ := exists_application hm
  refine ⟨b, ht.symm.trans hb, hn, ?_⟩
  unfold readNamed
  simp only [hm, hname, hargs]
  cases maker? (normalise b.name) <;> rfl

theorem Names.isUnreadable (h : Names type make arguments)
    (k : ∃ x ∈ arguments, ¬ x.IsReadable) : IsUnreadable type := by
  obtain ⟨a, key, ht, hs, hmake, rfl⟩ := h
  exact ⟨a, ht, hs.isName (isKnownName_of_maker hmake), k⟩

theorem Names.readNamed (h : Names type make arguments) (k : ∀ x ∈ arguments, x.IsReadable) :
    readNamed type = .ok (make (arguments.map Argument.value)) := by
  obtain ⟨a, key, ht, hs, hmake, rfl⟩ := h
  have hknown := isKnownName_of_maker hmake
  have hname := hs.isName hknown
  obtain ⟨b, hab, hb, hread⟩ := exists_read hname ht
  rw [hread, ← listed_eq_of_chars_eq hname hb hab, readArguments_of_readable k,
    normalise_eq_of_spells hs hknown hb hab, hmake]
  rfl

theorem Names.isKnown (h : Names type make arguments) :
    (make (arguments.map Argument.value)).isKnown := by
  obtain ⟨_, key, _, _, hmake, _⟩ := h
  obtain ⟨front, back, hmakers, _⟩ := List.lookup_eq_some_iff.1 hmake
  exact isKnown_of_maker (by simp [hmakers]) _

theorem Names.isReadable (h : Names type make arguments) (k : ¬ IsUnreadable type) :
    ∀ x ∈ arguments, x.IsReadable :=
  fun x hx => by_contra fun hr => k (h.isUnreadable ⟨x, hx, hr⟩)

theorem IsUnreadable.exists_fault (h : IsUnreadable type) :
    ∃ fault, fault.kind = .value ∧ TypeName.readNamed type = .error fault := by
  obtain ⟨a, ht, hname, hu⟩ := h
  obtain ⟨b, hab, hb, hread⟩ := exists_read hname ht
  obtain ⟨fault, hkind, hf⟩ := exists_fault_of_unreadable hu
  refine ⟨fault, hkind, ?_⟩
  rw [hread, ← listed_eq_of_chars_eq hname hb hab, hf]
  rfl

theorem readNamed_of_not_names (h : ∀ make arguments, ¬ Names type make arguments)
    (k : ¬ IsUnreadable type) : readNamed type = .ok (.raw type) := by
  unfold readNamed
  cases hm : pattern.matchWhole type.toList with
  | none => rfl
  | some m =>
    obtain ⟨b, hb, hn, hname, hargs⟩ := exists_application hm
    have hreadable : ∀ x ∈ b.arguments, x.IsReadable := fun x hx =>
      by_contra fun hu => k ⟨b, hb, hn, x, hx, hu⟩
    have hunknown : maker? (normalise b.name) = none := by
      by_contra hsome
      obtain ⟨make, hmake⟩ := Option.ne_none_iff_exists'.1 hsome
      obtain ⟨core, n, hcore, hspells⟩ := hn.exists_spells hmake
      -- The spaces behind the name count among the blanks there.
      have hblank : ∀ c ∈ List.replicate n ' ' ++ b.behind, isBlank c := by
        intro c hc
        rcases List.mem_append.1 hc with hc | hc
        · exact List.all_eq_true.1 (Text.all_isBlank_replicate n) c hc
        · exact b.blank_behind c hc
      refine h make b.arguments
        ⟨{ b with name := core, behind := _, blank_behind := hblank }, _, ?_, hspells, hmake, rfl⟩
      rw [hb]
      simp [Application.chars, hcore]
    simp only [hname, hargs, hunknown, readArguments_of_readable hreadable]
    rfl

theorem not_isUnreadable_of_readNamed {t : DataType} (h : readNamed type = .ok t) :
    ¬ IsUnreadable type := by
  intro hu
  obtain ⟨_, _, hf⟩ := hu.exists_fault
  rw [hf] at h
  cases h

theorem readNamed_eq_ok_known_iff {t : DataType} :
    readNamed type = .ok t ∧ t.isKnown ↔ ∃ make arguments, Names type make arguments ∧
      (∀ x ∈ arguments, x.IsReadable) ∧ t = make (arguments.map Argument.value) := by
  constructor
  · rintro ⟨ht, hk⟩
    have hu := not_isUnreadable_of_readNamed ht
    by_contra hno
    have hnot : ∀ make arguments, ¬ Names type make arguments := by
      intro make arguments hn
      have hr := hn.isReadable hu
      rw [hn.readNamed hr] at ht
      exact hno ⟨make, arguments, hn, hr, (Except.ok.inj ht).symm⟩
    rw [readNamed_of_not_names hnot hu] at ht
    obtain rfl := Except.ok.inj ht
    cases hk
  · rintro ⟨make, arguments, hn, hr, rfl⟩
    exact ⟨hn.readNamed hr, hn.isKnown⟩

theorem readNamed_eq_ok_raw_iff :
    readNamed type = .ok (.raw type) ↔
      (∀ make arguments, ¬ Names type make arguments) ∧ ¬ IsUnreadable type := by
  constructor
  · intro ht
    have hu := not_isUnreadable_of_readNamed ht
    refine ⟨fun make arguments hn => ?_, hu⟩
    have hk := hn.isKnown
    rw [hn.readNamed (hn.isReadable hu)] at ht
    rw [Except.ok.inj ht] at hk
    cases hk
  · rintro ⟨hn, hu⟩
    exact readNamed_of_not_names hn hu

theorem isUnreadable_of_readNamed_error {fault : Fault} (h : readNamed type = .error fault) :
    IsUnreadable type := by
  by_contra hu
  by_cases hn : ∃ make arguments, Names type make arguments
  · obtain ⟨make, arguments, hn⟩ := hn
    rw [hn.readNamed (hn.isReadable hu)] at h
    cases h
  · rw [readNamed_of_not_names (fun make arguments hm => hn ⟨make, arguments, hm⟩) hu] at h
    cases h

end Reading

section Recognition

variable {enumerations : List Enumeration} {type : String}

theorem read_eq_readNamed
    (h : ∀ e, enumeration? enumerations type = some e → e.values = []) :
    read enumerations type = readNamed type := by
  have hnone : (enumeration? enumerations type).filter (fun e => !e.values.isEmpty) = none := by
    cases he : enumeration? enumerations type with
    | none => rfl
    | some e => simp [Option.filter, h e he]
  unfold read
  rw [hnone]

/-- Every text but the name of an enumeration with values is read as the known type that it names,
fails for a number that cannot be read, or else is a raw type. -/
theorem recognised_of_no_values
    (h : ∀ e, enumeration? enumerations type = some e → e.values = []) :
    Recognised enumerations type := by
  have hread := read_eq_readNamed h
  refine ⟨fun t => ?_, ?_, ?_⟩
  · rw [hread]
    exact readNamed_eq_ok_known_iff
  · rw [hread]
    exact readNamed_eq_ok_raw_iff
  · rw [hread]
    constructor
    · rintro ⟨fault, _, hf⟩
      exact isUnreadable_of_readNamed_error hf
    · exact IsUnreadable.exists_fault

def valuelessDecimal : Enumeration where
  name := "Decimal ( 10 , 2 )"
  values := []

theorem recognised_decimal :
    (∀ e, enumeration? [valuelessDecimal] "Decimal ( 10 , 2 )" = some e → e.values = []) ∧
    Recognised [valuelessDecimal] "Decimal ( 10 , 2 )" ∧
    read [valuelessDecimal] "Decimal ( 10 , 2 )" = .ok (.numeric (some 10) (some 2)) := by
  have hnone : ∀ e, enumeration? [valuelessDecimal] "Decimal ( 10 , 2 )" = some e →
      e.values = [] := by
    intro e he
    obtain rfl := Option.some.inj he
    rfl
  exact ⟨hnone, recognised_of_no_values hnone, by decide +kernel⟩

def separated : Argument where
  before := [Char.ofNat 28]
  digits := ['5']
  behind := []
  blank_before := List.forall_mem_singleton.2 (by decide)
  digits_ne := List.cons_ne_nil _ _
  digit := List.forall_mem_singleton.2 (by decide)
  blank_behind := by simp

theorem read_separated_ne :
    Names "varchar(\x1c5)" (fun numbers => .string numbers[0]?) [separated] ∧
    separated.digits.length ≤ Fault.maxDigits ∧
    read [] "varchar(\x1c5)" ≠ .ok (.string (some separated.value)) := by
  have hspells : Spells "varchar".toList "varchar".toList := by
    have htext : "varchar".toList = ['v', 'a', 'r', 'c', 'h', 'a', 'r'] := by decide
    rw [htext]
    repeat' first | exact .nil | refine .letter rfl (by decide) ?_
  refine ⟨⟨⟨[], "varchar".toList, [], [separated], [], by simp, by simp, by simp⟩, "varchar",
    by decide, hspells, rfl, rfl⟩, by decide, ?_⟩
  have hread : read [] "varchar(\x1c5)" = .error (.numberMalformed "'\\x1c5'") := by decide +kernel
  rw [hread]
  intro h
  cases h

end Recognition

end SchemaText.Export.TypeName
