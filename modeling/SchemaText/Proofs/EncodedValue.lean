import SchemaText.Proofs.Diagram.InContext
import SchemaText.Proofs.Sql.Attribute
import SchemaText.Proofs.Sql.LiteralText
/-! Values in the notation and in SQL: how they are written, and that nothing of them is lost when
they are read. -/

namespace SchemaText

open Text (Stops stops_nil stops_cons)

namespace Sql.ColumnClause

open Pattern
open Sql.ColumnClause.Frame (found)

theorem defaultOf_quoted (value : List Char) {rest : List Char} (h : Stops (· == '\'') rest) :
    defaultOf ("DEFAULT ".toList ++ (Literal.quoted value ++ rest)) = some value := by
  have hvalue : Behind [.value (Literal.quoted value ++ rest)]
      ([' '] ++ (Literal.quoted value ++ rest ++ [])) :=
    .cons (by simp) (List.forall_mem_singleton.2 (by decide)) (.value _) .nil
  rw [List.append_nil] at hvalue
  have hwritten : Written ([] ++ [.keyword "DEFAULT", .value (Literal.quoted value ++ rest)])
      ("DEFAULT ".toList ++ (Literal.quoted value ++ rest)) :=
    ⟨"DEFAULT".toList, _, rfl, .keyword (by decide), hvalue⟩
  obtain ⟨_, behind, ⟨⟩, hbehind, hfound⟩ :=
    found_keyed hwritten (by decide) agrees_default (by simp)
  have hstops : Stops (· == '\'') (rest ++ behind) := by
    cases rest with
    | nil =>
      refine hbehind.stops fun c hc => ?_
      rw [beq_eq_false_iff_ne]
      rintro rfl
      exact absurd hc (by decide)
    | cons c rest => exact h
  have htakes : defaultValue.Takes (Literal.quoted value) (rest ++ behind)
      [("1", Text.double '\'' value)] :=
    (Literal.takes_pattern value hstops).orElse _
  rw [defaultOf_eq, hfound _ _ _ (List.append_assoc _ _ _) (stops_cons.2 (by decide)) htakes]
  exact congrArg some (Literal.unescape_double value)

end Sql.ColumnClause

section Values

open Diagram Sql
open Diagram.Cursor (ReadsBack readValue)

/-- What is written of a value is read back: an attribute's exactly if it is written bare or lacks
some mark, up to the comma or the bracket behind it; every value in a list of literals; and every
literal that is a default, up to what is no quote. -/
theorem read_encoded :
    (∀ (before rest : List Char) (value : String) (ch : Char), ch = ',' ∨ ch = ']' →
      (ReadsBack readValue before (renderValue value).toList (ch :: rest) value.toList ↔
        renderValue value = value ∨ Quotable value.toList)) ∧
      (∀ values, Literal.findAll (Literal.listed values) = values) ∧
      ∀ value rest, Stops (· == '\'') rest →
        ColumnClause.defaultOf ("DEFAULT ".toList ++ (Literal.quoted value ++ rest)) =
          some value :=
  ⟨fun before rest value _ h => readsBack_renderValue_iff before rest value h,
    Literal.findAll_listed, fun value _ h => ColumnClause.defaultOf_quoted value h⟩

def markedValue : String :=
  "it's, a \"]\""

theorem read_encoded_markedValue :
    ReadsBack readValue "pk, note: ".toList (renderValue markedValue).toList ", unique]".toList
        markedValue.toList ∧
      Literal.findAll (Literal.listed [markedValue.toList, [], ['\'']]) =
        [markedValue.toList, [], ['\'']] ∧
      ColumnClause.defaultOf
          ("DEFAULT ".toList ++ (Literal.quoted markedValue.toList ++ "\nNOT NULL".toList)) =
        some markedValue.toList := by
  obtain ⟨hvalue, hlist, hdefault⟩ := read_encoded
  have hquotable : Quotable markedValue.toList := by decide +kernel
  have hrest : Stops (· == '\'') "\nNOT NULL".toList := stops_cons.2 (by decide)
  exact ⟨(hvalue _ " unique]".toList markedValue ',' (.inl rfl)).2 (.inr hquotable), hlist _,
    hdefault _ _ hrest⟩

end Values

end SchemaText
