import SchemaText.Export.Compiler
import SchemaText.Proofs.Export.Chain
import SchemaText.Proofs.Sql.Written
/-! Names of plain characters, which every dialect writes as they are or between marks. -/

namespace SchemaText.Export

open Diagram (isPlain)
open Sql.Core (Word)

def IsName (name : String) : Prop :=
  name ≠ "" ∧ name.toList.all isPlain

instance (name : String) : Decidable (IsName name) :=
  inferInstanceAs (Decidable (_ ∧ _))

def isDottedChar (c : Char) : Bool :=
  isPlain c || c == '.'

def IsDottedName (name : String) : Prop :=
  name ≠ "" ∧ name.toList.all isDottedChar

def IsNameText (d : Dialect) (name text : String) : Prop :=
  text.toList = name.toList ∨ text.toList = d.mark :: (name.toList ++ [d.mark])

inductive IsReferenceText (d : Dialect) : TableName → String → Prop
  | bare {name text : String} (h : IsNameText d name text) : IsReferenceText d ⟨none, name⟩ text
  | qualified {schema front name last : String} (h : IsNameText d schema front)
      (k : IsNameText d name last) :
      IsReferenceText d ⟨some schema, name⟩ (front ++ "." ++ last)

structure IsPlainName (name : TableName) : Prop where
  schema : ∀ schema ∈ name.schema, IsName schema
  name : IsName name.name

structure IsPlainKey (key : ForeignKey) : Prop where
  column : IsName key.column
  target : IsPlainName key.target
  targetColumn : IsName key.targetColumn

/-- The library writes names of plain characters and dots, be they names of schemas or other ones,
bare or between marks. -/
structure Library.MarksNames (lib : Library) (d : Dialect) : Prop where
  quote : ∀ name, IsDottedName name → ∃ text, lib.quote d name = .ok text ∧ IsNameText d name text
  quoteSchema : ∀ name, IsDottedName name →
    ∃ text, lib.quoteSchema d name = .ok text ∧ IsNameText d name text

section Compiler

variable {d : Dialect} {name text : String}

theorem IsName.isDottedName (h : IsName name) : IsDottedName name :=
  ⟨h.1, List.all_eq_true.2 fun c hc => Bool.or_eq_true_iff.2 (.inl (List.all_eq_true.1 h.2 c hc))⟩

theorem IsDottedName.enclose_eq (h : IsDottedName name) (d : Dialect) :
    d.enclose name.toList = d.mark :: (name.toList ++ [d.mark]) := by
  have hdouble {c : Char} (hc : isDottedChar c = false) :
      Text.double c name.toList = name.toList := by
    refine Text.double_of_not_mem fun hm => ?_
    rw [List.all_eq_true.1 h.2 c hm] at hc
    cases hc
  have hmark : isDottedChar d.mark = false := by cases d <;> decide
  unfold Dialect.enclose
  simp only [hdouble hmark, hdouble (c := '%') (by decide), ite_self, List.cons_append]

theorem isNameText_of_quoteName (h : IsDottedName name) (k : d.quoteName name = .ok text) :
    IsNameText d name text := by
  unfold Dialect.quoteName at k
  split at k
  · cases k
  · next first rest hcs =>
    obtain rfl := Except.ok.inj k
    split
    · rw [← hcs, h.enclose_eq]
      exact .inr String.toList_ofList
    · exact .inl rfl

theorem compiler_marksNames (d : Dialect) : compiler.MarksNames d := by
  have hquote (name : String) (h : IsDottedName name) :
      ∃ text, d.quoteName name = .ok text ∧ IsNameText d name text := by
    obtain ⟨first, rest, hcs⟩ := List.exists_cons_of_ne_nil
      fun hnil => h.1 (String.toList_inj.1 hnil)
    have hok : ∃ text, d.quoteName name = .ok text := by
      unfold Dialect.quoteName
      rw [hcs]
      exact ⟨_, rfl⟩
    obtain ⟨text, ht⟩ := hok
    exact ⟨text, ht, isNameText_of_quoteName h ht⟩
  exact ⟨hquote, hquote⟩

theorem isReferenceText_of_quoteQualified {t : TableName}
    (hs : ∀ schema ∈ t.schema, IsName schema) (h : IsName t.name)
    (k : d.quoteQualified t.schema t.name = .ok text) : IsReferenceText d t text := by
  obtain ⟨schema, name⟩ := t
  unfold Dialect.quoteQualified at k
  obtain ⟨last, hlast, k⟩ := exists_of_bind k
  have hlast := isNameText_of_quoteName h.isDottedName hlast
  cases schema with
  | none =>
    obtain rfl := Except.ok.inj k
    exact .bare hlast
  | some schema =>
    have hschema : IsName schema := hs schema rfl
    have hempty : ¬ schema.isEmpty := fun he => hschema.1 (String.isEmpty_iff.1 he)
    simp only [if_neg hempty] at k
    obtain ⟨front, hfront, k⟩ := exists_of_bind k
    obtain rfl := Except.ok.inj k
    exact .qualified (isNameText_of_quoteName hschema.isDottedName hfront) hlast

end Compiler

section Words

variable {d : Dialect} {name text : String}

def IsName.word (h : IsName name) : Word where
  chars := name.toList
  ne_nil hn := h.1 (String.toList_inj.1 hn)
  plain := List.all_eq_true.1 h.2

theorem IsName.text_word (h : IsName name) : h.word.text = name :=
  String.ofList_toList

theorem Dialect.mark_eq (d : Dialect) : d.mark = '"' ∨ d.mark = '`' := by
  cases d <;> decide

theorem IsNameText.exists_name (k : IsNameText d name text) (h : IsName name) :
    ∃ n : Sql.Written.Name, n.chars = text.toList ∧ n.text = name := by
  rcases k with hbare | hmarked
  · exact ⟨⟨h.word, none, fun c hc => nomatch hc⟩, hbare.symm, h.text_word⟩
  · refine ⟨⟨h.word, some d.mark, fun c hc => ?_⟩, hmarked.symm, h.text_word⟩
    obtain rfl : d.mark = c := Option.some.inj hc
    exact d.mark_eq

theorem IsReferenceText.exists_id {t : TableName} (k : IsReferenceText d t text)
    (hs : ∀ schema ∈ t.schema, IsName schema) (h : IsName t.name) :
    ∃ id : Sql.Written.Id, id.chars = text.toList ∧ id.text = t.key := by
  cases k with
  | bare k =>
    obtain ⟨n, hn, ht⟩ := k.exists_name h
    exact ⟨⟨none, n⟩, hn, ht⟩
  | @qualified schema front name last hfront hlast =>
    obtain ⟨s, hsc, hst⟩ := hfront.exists_name (hs schema rfl)
    obtain ⟨n, hn, ht⟩ := hlast.exists_name h
    refine ⟨⟨some s, n⟩, by simp [Sql.Written.Id.chars, hsc, hn], ?_⟩
    have hkey : TableName.key ⟨some schema, name⟩ = s.text ++ "." ++ n.text := by
      rw [hst, ht]
      rfl
    rw [hkey]
    apply String.toList_inj.1
    simp [Sql.Written.Id.text, Sql.Written.Id.plain, Sql.Core.Id.text, Sql.Core.Id.chars,
      Sql.Written.Name.text, Word.text]

theorem exists_names {names texts : List String} (h : ∀ name ∈ names, IsName name)
    (k : List.Forall₂ (IsNameText d) names texts) :
    ∃ ns : List Sql.Written.Name,
      Sql.Written.namesText ns = (", ".intercalate texts).toList ∧
        ns.map Sql.Written.Name.text = names := by
  have hwritten : ∃ ns : List Sql.Written.Name,
      ns.map Sql.Written.Name.chars = texts.map String.toList ∧
        ns.map Sql.Written.Name.text = names.map id :=
    exists_written_of_forall₂ k fun name hname _ hy => hy.exists_name (h name hname)
  obtain ⟨ns, hchars, hnames⟩ := hwritten
  refine ⟨ns, ?_, hnames.trans (List.map_id names)⟩
  rw [Sql.Written.namesText, hchars, String.toList_intercalate]

end Words

end SchemaText.Export
