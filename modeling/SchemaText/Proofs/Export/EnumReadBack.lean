import SchemaText.Proofs.Export.CreatedType
import SchemaText.Proofs.Export.QuotedName
import SchemaText.Proofs.QualifiedName
import SchemaText.Proofs.Sql.EnumerationRead
import SchemaText.Proofs.Sql.Name
import SchemaText.Proofs.Sql.NameSequence
/-! The statement that creates the type of an enumeration: read as SQL, it gives the enumeration
again, whatever its values hold but comments and folded line ends. -/

namespace SchemaText.Export

open Diagram (isPlain)
open Pattern (FailsOn)
open Sql (Commentless isNeutral IsTaken enumerationText)
open Sql.Identifier (isEnclosing clean clean_eq_filter filter_eq_self_of_forall
  takes_qualifiedName)
open Text (stops_cons isBlank isWord)

section Names

structure IsWritten (name text : List Char) : Prop where
  parts : ∃ parts ≠ [], (∀ part ∈ parts, Sql.Identifier.IsName part) ∧
    text = ['.'].intercalate parts
  filter : text.filter (fun c => !isEnclosing c) = name
  all : text.all fun c => isDottedChar c || c == '"'

variable {name text : List Char}

theorem IsWritten.append {front last first second : List Char} (h : IsWritten front first)
    (k : IsWritten last second) : IsWritten (front ++ '.' :: last) (first ++ '.' :: second) := by
  obtain ⟨xs, hxs, hx, rfl⟩ := h.parts
  obtain ⟨ys, hys, hy, rfl⟩ := k.parts
  refine ⟨⟨xs ++ ys, List.append_ne_nil_of_left_ne_nil hxs _, ?_, ?_⟩, ?_, ?_⟩
  · exact List.forall_mem_append.2 ⟨hx, hy⟩
  · obtain ⟨x, xs, rfl⟩ := List.exists_cons_of_ne_nil hxs
    obtain ⟨y, ys, rfl⟩ := List.exists_cons_of_ne_nil hys
    simp [Text.intercalate_cons]
  · have hdot (rest : List Char) : ('.' :: rest).filter (fun c => !isEnclosing c) =
        '.' :: rest.filter fun c => !isEnclosing c := rfl
    rw [List.filter_append, hdot, h.filter, k.filter]
  · have hdot : (isDottedChar '.' || '.' == '"') = true := rfl
    rw [List.all_append, h.all, List.all_cons, hdot, k.all]
    rfl

theorem isTaken_intercalate {names : List (List Char)} (hne : names ≠ [])
    (h : ∀ text ∈ names, Sql.Identifier.IsName text) : IsTaken (['.'].intercalate names) := by
  intro rest
  refine ⟨?_, takes_qualifiedName hne h (stops_cons.2 rfl) (.of_forall fun _ _ _ _ _ => rfl)⟩
  obtain ⟨first, more, rfl⟩ := List.exists_cons_of_ne_nil hne
  rw [Text.intercalate_cons, List.append_assoc]
  exact (h first List.mem_cons_self).stops _

theorem IsWritten.isTaken (h : IsWritten name text) : IsTaken text := by
  obtain ⟨parts, hne, hparts, rfl⟩ := h.parts
  exact isTaken_intercalate hne hparts

theorem IsWritten.cleanName {name : String} (h : IsWritten name.toList text) :
    Sql.Draft.cleanName text = name := by
  have hblank : ∀ c ∈ text, isBlank c = false := by
    intro c hc
    rcases Bool.or_eq_true_iff.1 (List.all_eq_true.1 h.all c hc) with hd | hq
    · rcases Bool.or_eq_true_iff.1 hd with hp | hd
      · exact Diagram.isBlank_eq_false_of_isPlain hp
      · rw [beq_iff_eq.1 hd]
        rfl
    · rw [beq_iff_eq.1 hq]
      rfl
  unfold Sql.Draft.cleanName
  rw [clean_eq_filter hblank, h.filter, String.ofList_toList]

theorem IsWritten.all_isNeutral (h : IsWritten name text) : text.all isNeutral := by
  refine List.all_eq_true.2 fun c hc => ?_
  cases hn : isNeutral c with
  | true => rfl
  | false =>
    have hin : c ∈ ['-', '/', '*', '\r', '\n'] := by
      simpa only [isNeutral, Bool.not_eq_false', List.contains_eq_mem, decide_eq_true_eq] using hn
    have hall : ['-', '/', '*', '\r', '\n'].all fun c => !(isDottedChar c || c == '"') := by decide
    have hnot := List.all_eq_true.1 hall c hin
    rw [List.all_eq_true.1 h.all c hc] at hnot
    cases hnot

end Names

section Cutting

variable {parts : List String} {name : String}

/-- The name is made of names with dots between them. -/
structure IsSequence (parts : List String) (name : String) : Prop where
  ne_nil : parts ≠ []
  names : ∀ part ∈ parts, IsName part
  eq : name = ".".intercalate parts

theorem IsSequence.toList_eq (h : IsSequence parts name) :
    name.toList = ['.'].intercalate (parts.map String.toList) := by
  rw [h.eq, String.toList_intercalate]
  rfl

theorem IsSequence.isDottedName (h : IsSequence parts name) : IsDottedName name := by
  refine ⟨?_, List.all_eq_true.2 fun c hc => ?_⟩
  · rintro rfl
    obtain ⟨first, more, rfl⟩ := List.exists_cons_of_ne_nil h.ne_nil
    have hnil := h.toList_eq
    rw [List.map_cons, Text.intercalate_cons] at hnil
    exact (h.names first List.mem_cons_self).word.ne_nil (List.append_eq_nil_iff.1 hnil.symm).1
  · rw [h.toList_eq] at hc
    unfold isDottedChar
    rcases Text.mem_intercalate hc with hc | ⟨part, hp, hc⟩
    · rw [List.mem_singleton.1 hc]
      rfl
    · obtain ⟨source, hs, rfl⟩ := List.mem_map.1 hp
      rw [List.all_eq_true.1 (h.names source hs).2 c hc]
      rfl

theorem IsSequence.isWritten (h : IsSequence parts name) {text : String}
    (k : IsNameText .postgresql name text) : IsWritten name.toList text.toList := by
  have hchars : ∀ c ∈ name.toList, isDottedChar c := List.all_eq_true.1 h.isDottedName.2
  have hfilter : name.toList.filter (fun c => !isEnclosing c) = name.toList :=
    filter_eq_self_of_forall (by decide) hchars
  have hall : name.toList.all fun c => isDottedChar c || c == '"' := by
    refine List.all_eq_true.2 fun c hc => ?_
    rw [hchars c hc]
    rfl
  have hmark : Dialect.postgresql.mark = '"' := rfl
  rcases k with hbare | hmarked
  · rw [hbare]
    refine ⟨⟨parts.map String.toList, by simpa using h.ne_nil, ?_, h.toList_eq⟩, hfilter, hall⟩
    intro part hp
    obtain ⟨source, hs, rfl⟩ := List.mem_map.1 hp
    have hsource := h.names source hs
    exact .word hsource.word.ne_nil fun c hc =>
      Text.isWord_of_isPlain (List.all_eq_true.1 hsource.2 c hc)
  · rw [hmarked, hmark]
    have hne : name.toList ≠ [] := fun hnil => h.isDottedName.1 (String.toList_inj.1 hnil)
    have hnot : '"' ∉ name.toList := fun hin => absurd (hchars _ hin) (by decide)
    have henclosing : isEnclosing '"' = true := rfl
    refine ⟨⟨['"' :: (name.toList ++ ['"'])], by simp, ?_, by simp [List.intercalate]⟩, ?_, ?_⟩
    · simpa using Sql.Identifier.IsName.enclosed (by decide) hne hnot
    · simp [henclosing, hfilter]
    · simp only [List.all_cons, List.all_append, List.all_nil, hall]
      decide

theorem isSequence_singleton (h : IsName name) : IsSequence [name] name where
  ne_nil := List.cons_ne_nil _ _
  names := by simpa using h
  eq := by
    apply String.toList_inj.1
    simp

theorem IsSequence.splitLast_cases (h : IsSequence parts name) :
    QualifiedName.splitLast name = (none, name) ∧ IsName name ∨
      ∃ init front last, IsSequence init front ∧ IsName last ∧
        name.toList = front.toList ++ '.' :: last.toList ∧
        QualifiedName.splitLast name = (some front, last) := by
  have hdot {part : String} (hp : IsName part) : '.' ∉ part.toList := fun hin =>
    absurd (List.all_eq_true.1 hp.2 _ hin) (by decide)
  obtain ⟨init, last, rfl⟩ : ∃ init last, parts = init ++ [last] :=
    ⟨_, _, (List.dropLast_append_getLast h.ne_nil).symm⟩
  have hlast : IsName last := h.names last (by simp)
  rcases init.eq_nil_or_concat with rfl | ⟨more, part, hconcat⟩
  · have hname : name = last := by
      apply String.toList_inj.1
      rw [h.toList_eq]
      simp [List.intercalate]
    subst hname
    exact .inl ⟨QualifiedName.splitLast_of_notMem (hdot hlast), hlast⟩
  · rw [List.concat_eq_append] at hconcat
    subst hconcat
    have hinit : IsSequence (more ++ [part]) (".".intercalate (more ++ [part])) :=
      ⟨by simp, fun other ho => h.names other (List.mem_append_left _ ho), rfl⟩
    have hchars : name.toList =
        (".".intercalate (more ++ [part])).toList ++ '.' :: last.toList := by
      rw [h.toList_eq, hinit.toList_eq, List.map_append, List.map_append, List.map_singleton,
        List.map_singleton, Text.intercalate_concat, Text.intercalate_concat]
      simp
    exact .inr ⟨_, _, last, hinit, hlast, hchars,
      QualifiedName.splitLast_eq_some_iff.2 ⟨hdot hlast, hchars⟩⟩

end Cutting

section Statements

variable {lib : Library} {parts : List String} {name : String} {e : Enumeration}

theorem exists_isWritten (hl : lib.MarksNames .postgresql) (h : IsSequence parts name) :
    ∃ text, lib.quoteQualified .postgresql (QualifiedName.splitLast name).1
        (QualifiedName.splitLast name).2 = .ok text ∧ IsWritten name.toList text.toList := by
  rcases h.splitLast_cases with ⟨hs, hname⟩ | ⟨init, front, last, hfront, hlast, hchars, hs⟩
  · obtain ⟨text, ht, hw⟩ := hl.quote name hname.isDottedName
    refine ⟨text, ?_, (isSequence_singleton hname).isWritten hw⟩
    rw [hs, Library.quoteQualified, ht]
    rfl
  · obtain ⟨first, hf, hfw⟩ := hl.quoteSchema front hfront.isDottedName
    obtain ⟨second, hsecond, hlw⟩ := hl.quote last hlast.isDottedName
    have hempty : ¬ front.isEmpty := fun he => hfront.isDottedName.1 (String.isEmpty_iff.1 he)
    refine ⟨first ++ "." ++ second, ?_, ?_⟩
    · rw [hs, Library.quoteQualified, hsecond]
      show (if front.isEmpty then _ else _) = _
      rw [if_neg hempty, hf]
      rfl
    · have htext : (first ++ "." ++ second).toList = first.toList ++ '.' :: second.toList := by simp
      rw [hchars, htext]
      exact (hfront.isWritten hfw).append ((isSequence_singleton hlast).isWritten hlw)

theorem toList_valueLiteral (value : String) :
    (valueLiteral value).toList = Sql.Literal.quoted value.toList := by
  unfold valueLiteral
  rw [String.toList_ofList]
  rfl

theorem typeStatement_eq (written : String) (values : List String) :
    typeStatement written values ++ ";" =
      String.ofList (enumerationText written.toList (values.map String.toList)) := by
  have hlist : (", ".intercalate (values.map valueLiteral)).toList =
      Sql.Literal.listed (values.map String.toList) := by
    rw [String.toList_intercalate, List.map_map, Sql.Literal.listed, List.map_map]
    exact congrArg _ (List.map_congr_left fun value _ => toList_valueLiteral value)
  have hspace : " AS ENUM (".toList = " AS ENUM ".toList ++ ['('] := by decide
  apply String.toList_inj.1
  unfold typeStatement enumerationText Sql.Core.enclosed
  simp only [String.toList_append, String.toList_ofList, hlist]
  rw [hspace]
  simp

/-- The statement of an enumeration, read by itself, gives this enumeration and no other one,
whatever library writes its name bare or between marks. -/
theorem enumerations_read_createType (hl : lib.MarksNames .postgresql) (h : IsSequence parts e.name)
    (hv : ∀ value ∈ e.values, Commentless value.toList) :
    ∃ text, lib.createType .postgresql e = .ok text ∧
      (Sql.read (text ++ ";")).schema.enumerations = [e] := by
  obtain ⟨written, hw, htype⟩ := exists_isWritten hl h
  refine ⟨typeStatement written e.values, ?_, ?_⟩
  · unfold Library.createType
    simp only [hw]
    rfl
  · have hvalues : ∀ value ∈ e.values.map String.toList, Commentless value := by
      simpa using hv
    have hback : (e.values.map String.toList).map String.ofList = e.values := by
      simp
    rw [typeStatement_eq, Sql.enumerations_enumerationText htype.all_isNeutral htype.isTaken hvalues,
      htype.cleanName, hback]

def levels : Enumeration where
  name := "app.Types.level"
  values := ["it's", "');", "", "CREATE TYPE x AS ENUM ('y');", "a, 'b'", "-", "/ *\n\"", "''"]

theorem enumerations_read_levels :
    compiler.MarksNames .postgresql ∧ IsSequence ["app", "Types", "level"] levels.name ∧
      (∀ value ∈ levels.values, Commentless value.toList) ∧
      ∃ text, compiler.createType .postgresql levels = .ok text ∧
        (Sql.read (text ++ ";")).schema.enumerations = [levels] := by
  have hs : IsSequence ["app", "Types", "level"] levels.name :=
    ⟨by decide, by decide, by decide⟩
  have hv : ∀ value ∈ levels.values, Commentless value.toList := by decide +kernel
  have hl := compiler_marksNames .postgresql
  exact ⟨hl, hs, hv, enumerations_read_createType hl hs hv⟩

end Statements

end SchemaText.Export
