import SchemaText.Export.Compiler
import SchemaText.Proofs.Sql.Written
import SchemaText.Proofs.Text.Split
/-! The types of columns as they are written: a few words, perhaps with numbers in parentheses. -/

namespace SchemaText.Export

open Diagram (isPlain)
open Sql.Core (Word enclosed)
open Sql.Written (TypeText isUsual isQuiet isArgument)

section Words

def isTypeName (name : List Char) : Bool :=
  let words := Text.split (· == ' ') name
  words.all (fun word => word != [] && word.all isPlain && isUsual word) &&
    words.tail.all fun word => word.all isQuiet

theorem exists_words {parts : List (List Char)}
    (h : ∀ part ∈ parts, part ≠ [] ∧ part.all isPlain) :
    ∃ words : List Word, words.map Word.chars = parts := by
  induction parts with
  | nil => exact ⟨[], rfl⟩
  | cons part parts ih =>
    obtain ⟨hne, hplain⟩ := h part List.mem_cons_self
    obtain ⟨words, rfl⟩ := ih fun other ho => h other (List.mem_cons_of_mem _ ho)
    exact ⟨⟨part, hne, List.all_eq_true.1 hplain⟩ :: words, rfl⟩

variable {name : List Char}

theorem exists_typeText (h : isTypeName name) (arguments : Option (List Char))
    (k : ∀ text ∈ arguments, text.all isArgument ∧ ¬ ['-', '-'] <:+: text) :
    ∃ type : TypeText, type.chars = name ++ arguments.elim [] enclosed := by
  obtain ⟨hall, htail⟩ := Bool.and_eq_true_iff.1 h
  simp only [List.all_eq_true, Bool.and_eq_true, bne_iff_ne, ne_eq] at hall
  have hparts : ∀ part ∈ Text.split (· == ' ') name, part ≠ [] ∧ part.all isPlain :=
    fun part hm => ⟨(hall part hm).1.1, List.all_eq_true.2 (hall part hm).1.2⟩
  obtain ⟨words, hwords⟩ := exists_words hparts
  have hname := Text.intercalate_split ' ' name
  rw [← hwords] at hall htail hname
  cases words with
  | nil => exact absurd hwords.symm (Text.split_ne_nil _ _)
  | cons head more =>
    refine ⟨⟨head, more, arguments, fun word hm => ?_, fun word hm => ?_, k⟩, ?_⟩
    · exact (hall _ (List.mem_map_of_mem hm)).2
    · exact List.all_eq_true.1 htail _ (List.mem_map_of_mem hm)
    · rw [List.map_cons, Text.intercalate_cons, List.flatMap_map] at hname
      rw [← hname, List.append_assoc]
      rfl

end Words

def IsTypeText (text : String) : Prop :=
  ∃ type : TypeText, type.chars = text.toList

theorem isTypeText_of_name {text : String} (h : isTypeName text.toList) : IsTypeText text := by
  obtain ⟨type, ht⟩ := exists_typeText h none fun _ hm => nomatch hm
  exact ⟨type, by rw [ht]; exact List.append_nil _⟩

section Numbers

def isNumeral (c : Char) : Bool :=
  c.isDigit || c == ' ' || c == ','

theorem isArgument_of_isNumeral {c : Char} (h : isNumeral c) : isArgument c := by
  unfold isNumeral at h
  unfold isArgument
  simp only [Bool.or_eq_true, beq_iff_eq] at h
  rcases h with (h | rfl) | rfl
  · rw [h]
    rfl
  · decide
  · decide

theorem arguments_of_all {text : List Char} (h : text.all isNumeral) :
    text.all isArgument ∧ ¬ ['-', '-'] <:+: text := by
  refine ⟨List.all_eq_true.2 fun c hc => isArgument_of_isNumeral (List.all_eq_true.1 h c hc), ?_⟩
  intro k
  have hm : '-' ∈ text := k.subset List.mem_cons_self
  exact absurd (List.all_eq_true.1 h _ hm) (by decide)

theorem all_isNumeral_toString (n : Nat) : (toString n).toList.all isNumeral := by
  refine List.all_eq_true.2 fun c hc => ?_
  rw [Nat.toString_eq_repr, Nat.toList_repr] at hc
  have hd : c.isDigit := Nat.isDigit_of_mem_toDigits (by decide) (by decide) hc
  simp [isNumeral, hd]

theorem isTypeText_applied {name : String} (h : isTypeName name.toList) {numbers : String}
    (k : numbers.toList.all isNumeral) : IsTypeText (name ++ "(" ++ numbers ++ ")") := by
  have hnumbers : ∀ text ∈ some numbers.toList, text.all isArgument ∧ ¬ ['-', '-'] <:+: text := by
    intro text hm
    obtain rfl : numbers.toList = text := Option.some.inj hm
    exact arguments_of_all k
  obtain ⟨type, ht⟩ := exists_typeText h _ hnumbers
  refine ⟨type, ?_⟩
  simp [ht, enclosed]

end Numbers

section Library

def sqlTypeNames : List String :=
  ["INTEGER", "BIGINT", "SMALLINT", "SERIAL", "BIGSERIAL", "SMALLSERIAL", "VARCHAR", "CHAR", "TEXT",
   "BOOLEAN", "BOOL", "DATE", "DATETIME", "TIMESTAMP WITHOUT TIME ZONE",
   "TIMESTAMP WITH TIME ZONE", "TIME", "TIME WITHOUT TIME ZONE", "NUMERIC", "FLOAT", "BYTEA",
   "BLOB", "JSON", "UUID"]

inductive WritesType : DataType → String → Prop
  | name {type : DataType} {name : String} (h : name ∈ sqlTypeNames) : WritesType type name
  | applied {type : DataType} {name numbers : String} (h : name ∈ sqlTypeNames)
      (k : numbers.toList.all isNumeral) : WritesType type (name ++ "(" ++ numbers ++ ")")
  | raw (definition : String) : WritesType (.raw definition) definition

theorem isTypeName_of_mem {name : String} (h : name ∈ sqlTypeNames) : isTypeName name.toList := by
  have hall : sqlTypeNames.all fun name => isTypeName name.toList := by decide +kernel
  exact List.all_eq_true.1 hall name h

theorem WritesType.isTypeText {type : DataType} {text : String} (h : WritesType type text)
    (k : ∀ definition, type = .raw definition → IsTypeText definition) : IsTypeText text := by
  cases h with
  | name h => exact isTypeText_of_name (isTypeName_of_mem h)
  | applied h hnumbers => exact isTypeText_applied (isTypeName_of_mem h) hnumbers
  | raw => exact k _ rfl

end Library

section Compiler

variable {type : DataType} {name text : String}

theorem writesType_sizedExactly (h : name ∈ sqlTypeNames) (length : Option Nat) :
    WritesType type (DataType.sizedExactly name length) := by
  cases length with
  | none => exact .name h
  | some length => exact .applied h (all_isNumeral_toString length)

theorem writesType_sized (h : name ∈ sqlTypeNames) (length : Option Nat) :
    WritesType type (DataType.sized name length) := by
  unfold DataType.sized
  split
  · exact .name h
  · exact .name h
  · next length _ => exact .applied h (all_isNumeral_toString length)

theorem writesType_numeric (precision scale : Nat) :
    WritesType type ("NUMERIC(" ++ toString precision ++ ", " ++ toString scale ++ ")") := by
  have hnumeric : "NUMERIC" ∈ sqlTypeNames := by decide
  have hn : (toString precision ++ ", " ++ toString scale).toList.all isNumeral := by
    simp only [String.toList_append, List.all_append, Bool.and_eq_true, all_isNumeral_toString,
      and_true, true_and]
    decide
  have he : "NUMERIC" ++ "(" ++ (toString precision ++ ", " ++ toString scale) ++ ")" =
      "NUMERIC(" ++ toString precision ++ ", " ++ toString scale ++ ")" :=
    String.toList_inj.1 (by simp)
  exact he ▸ .applied hnumeric hn

theorem writesType_renderSqlite (type : DataType) : WritesType type type.renderSqlite := by
  have hnumeric : "NUMERIC" ∈ sqlTypeNames := by decide
  have hchar : "CHAR" ∈ sqlTypeNames := by decide
  have hbits : "32".toList.all isNumeral := by decide
  unfold DataType.renderSqlite
  split
  case h_4 length | h_5 length => exact writesType_sized (by decide) length
  case h_12 precision => exact .applied hnumeric (all_isNumeral_toString precision)
  case h_13 precision scale => exact writesType_numeric precision scale
  case h_17 => exact .applied hchar hbits
  case h_18 => exact writesType_sized (by decide) _
  case h_19 definition => exact .raw definition
  all_goals exact .name (by decide)

theorem writesType_of_renderPostgresql
    (h : ∀ schema name values, type ≠ .enumeration schema name values)
    (k : type.renderPostgresql = .ok text) : WritesType type text := by
  unfold DataType.renderPostgresql at k
  split at k
  case h_6 => exact absurd rfl (h _ _ _)
  case h_7 =>
    obtain rfl := Except.ok.inj k
    exact writesType_renderSqlite type
  all_goals
    obtain rfl := Except.ok.inj k
    exact .name (by decide)

theorem writesType_of_renderMysql
    (h : ∀ schema name values, type ≠ .enumeration schema name values)
    (k : type.renderMysql = .ok text) : WritesType type text := by
  unfold DataType.renderMysql at k
  split at k
  case h_1 => cases k
  case h_5 =>
    obtain rfl := Except.ok.inj k
    exact .name (by decide)
  case h_6 => exact absurd rfl (h _ _ _)
  case h_7 =>
    obtain rfl := Except.ok.inj k
    exact writesType_renderSqlite type
  all_goals
    obtain rfl := Except.ok.inj k
    exact writesType_sizedExactly (by decide) _

theorem writesType_serial (type : DataType) : WritesType type type.serial := by
  unfold DataType.serial
  split
  all_goals exact .name (by decide)

end Compiler

end SchemaText.Export
