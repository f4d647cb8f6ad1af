import SchemaText.Proofs.Export.Chain
import SchemaText.Proofs.Export.TypeText
import SchemaText.Proofs.Sql.TextCharacters
/-! The types that a schema names by a known name, perhaps with whole numbers. -/

namespace SchemaText.Export

open Sql.Core (enclosed)
open Sql.Written (isArgument)

/-- A whole number as an argument of a type, with spaces around it. -/
structure TypeArgument where
  before : Nat
  sign : Option Char
  digits : List Char
  after : Nat
  signed : sign.all fun c => c == '-' || c == '+'
  digits_ne : digits ≠ []
  digit : digits.all Char.isDigit

def TypeArgument.chars (n : TypeArgument) : List Char :=
  List.replicate n.before ' ' ++ (n.sign.toList ++ (n.digits ++ List.replicate n.after ' '))

inductive IsKnownType (type : String) : Prop where
  | name (h : type ∈ TypeName.makers.map Prod.fst)
  | applied (name : String) (h : name ∈ TypeName.makers.map Prod.fst)
      (arguments : List TypeArgument)
      (k : type.toList =
        name.toList ++ enclosed ([','].intercalate (arguments.map TypeArgument.chars)))
  | recognised (make : List Nat → DataType) (h : make ∈ TypeName.makers.map Prod.snd)
      (numbers : List Nat) (k : TypeName.readNamed type = .ok (make numbers))

section Arguments

theorem TypeArgument.all_isArgument (n : TypeArgument) : n.chars.all isArgument := by
  have hspaces (k : Nat) : (List.replicate k ' ').all isArgument :=
    List.all_eq_true.2 fun c hc => by
      rw [List.eq_of_mem_replicate hc]
      decide
  have hsign : n.sign.toList.all isArgument :=
    List.all_eq_true.2 fun c hc => by
      have hs := n.signed
      rw [Option.mem_toList.1 hc] at hs
      rcases Bool.or_eq_true_iff.1 hs with hs | hs <;> rw [beq_iff_eq.1 hs] <;> decide
  have hdigits : n.digits.all isArgument :=
    List.all_eq_true.2 fun c hc => by simp [isArgument, List.all_eq_true.1 n.digit c hc]
  unfold chars
  simp only [List.all_append, hspaces, hsign, hdigits, Bool.and_true]

theorem TypeArgument.not_infix (n : TypeArgument) : ¬ ['-', '-'] <:+: n.chars := by
  intro h
  have hcount : List.count '-' ['-', '-'] ≤ List.count '-' n.chars := h.sublist.count_le '-'
  have hspaces (k : Nat) : List.count '-' (List.replicate k ' ') = 0 := by
    rw [List.count_replicate]
    rfl
  have hsign : List.count '-' n.sign.toList ≤ 1 := by
    cases n.sign with
    | none => exact Nat.zero_le 1
    | some sign => exact List.count_le_length
  have hdigits : List.count '-' n.digits = 0 :=
    List.count_eq_zero.2 fun hm => absurd (List.all_eq_true.1 n.digit _ hm) (by decide)
  have htwo : List.count '-' ['-', '-'] = 2 := rfl
  simp only [chars, List.count_append, hspaces, hdigits] at hcount
  omega

theorem all_isArgument_intercalate (arguments : List TypeArgument) :
    ([','].intercalate (arguments.map TypeArgument.chars)).all isArgument := by
  refine Sql.Core.all_intercalate (by decide) fun part hm => ?_
  obtain ⟨n, _, rfl⟩ := List.mem_map.1 hm
  exact n.all_isArgument

theorem not_infix_intercalate (arguments : List TypeArgument) :
    ¬ ['-', '-'] <:+: [','].intercalate (arguments.map TypeArgument.chars) := by
  intro h
  obtain ⟨part, hm, hp⟩ := Text.exists_infix_of_intercalate (by decide) (by decide) h
  obtain ⟨n, _, rfl⟩ := List.mem_map.1 hm
  exact n.not_infix hp

end Arguments

section Reading

variable {type : String}

def DataType.isKnown : DataType → Bool
  | enumeration .. | raw _ => false
  | _ => true

theorem isTypeName_of_maker {name : String} (h : name ∈ TypeName.makers.map Prod.fst) :
    isTypeName name.toList := by
  have hall : (TypeName.makers.map Prod.fst).all fun name => isTypeName name.toList := by
    decide +kernel
  exact List.all_eq_true.1 hall name h

theorem isKnown_of_maker {make : List Nat → DataType} (h : make ∈ TypeName.makers.map Prod.snd)
    (numbers : List Nat) : (make numbers).isKnown := by
  have hall : ∀ make ∈ TypeName.makers.map Prod.snd, (make numbers).isKnown := by
    simp [TypeName.makers, DataType.isKnown]
  exact hall make h

theorem eq_raw_or_isKnown_of_read {t : DataType} (k : TypeName.readNamed type = .ok t) :
    t = .raw type ∨ t.isKnown := by
  unfold TypeName.readNamed at k
  split at k
  · exact .inl (Except.ok.inj k).symm
  · next m _ =>
    obtain ⟨numbers, _, k⟩ := exists_of_bind k
    split at k
    · next make hmake =>
      obtain rfl := Except.ok.inj k
      obtain ⟨front, back, hmakers, _⟩ := List.lookup_eq_some_iff.1 hmake
      have hm : make ∈ TypeName.makers.map Prod.snd := by simp [hmakers]
      exact .inr (isKnown_of_maker hm numbers)
    · exact .inl (Except.ok.inj k).symm

theorem IsKnownType.isKnown_or_isTypeText (h : IsKnownType type) {t : DataType}
    (k : TypeName.readNamed type = .ok t) : t.isKnown ∨ t = .raw type ∧ IsTypeText type := by
  cases h with
  | name h =>
    rcases eq_raw_or_isKnown_of_read k with ht | ht
    · exact .inr ⟨ht, isTypeText_of_name (isTypeName_of_maker h)⟩
    · exact .inl ht
  | applied name h arguments htext =>
    rcases eq_raw_or_isKnown_of_read k with ht | ht
    · have hnumbers : ∀ text ∈ some ([','].intercalate (arguments.map TypeArgument.chars)),
          text.all isArgument ∧ ¬ ['-', '-'] <:+: text := by
        intro text hm
        obtain rfl := Option.some.inj hm
        exact ⟨all_isArgument_intercalate arguments, not_infix_intercalate arguments⟩
      obtain ⟨written, hw⟩ := exists_typeText (isTypeName_of_maker h) _ hnumbers
      exact .inr ⟨ht, written, hw.trans htext.symm⟩
    · exact .inl ht
  | recognised make h numbers hread =>
    obtain rfl := Except.ok.inj (hread.symm.trans k)
    exact .inl (isKnown_of_maker h numbers)

theorem IsKnownType.isTypeText_of_writesType (h : IsKnownType type) {t : DataType}
    (k : TypeName.read [] type = .ok t) {text : String} (r : WritesType t text) :
    IsTypeText text := by
  refine r.isTypeText fun definition ht => ?_
  subst ht
  rcases h.isKnown_or_isTypeText k with hknown | ⟨hraw, htext⟩
  · cases hknown
  · obtain rfl := DataType.raw.inj hraw
    exact htext

end Reading

end SchemaText.Export
