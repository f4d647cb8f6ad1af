import SchemaText.Proofs.Diagram.LegibleName
/-! Names and values inside of any text: which of them are read back as they were written. -/

namespace SchemaText.Diagram

namespace Cursor

/-- Between any two texts, the reader takes up exactly what is written, and as this value. -/
def ReadsBack (read : Cursor → List Char × Cursor) (before written rest value : List Char) : Prop :=
  read (ofPosition (before ++ (written ++ rest)) before.length) =
    (value, ofPosition (before ++ (written ++ rest)) (before.length + written.length))

variable {read : Cursor → List Char × Cursor} {before written rest value : List Char}

theorem ofPosition_length_append (before rest : List Char) :
    ofPosition (before ++ rest) before.length = place before.length rest := by
  simp [ofPosition, place]

theorem readsBack_iff :
    ReadsBack read before written rest value ↔
      read (place before.length (written ++ rest)) =
        (value, place (before.length + written.length) rest) := by
  have hstop := ofPosition_length_append (before ++ written) rest
  rw [List.length_append, List.append_assoc] at hstop
  rw [ReadsBack, ofPosition_length_append, hstop]

end Cursor

open Cursor

/-- Anywhere in a text, a dotted name is read back up to a blank or the end exactly if each of its
parts lacks some mark. -/
theorem readsBack_renderQualifiedName_iff (before : List Char) (name : String) {rest : List Char}
    (h : EndsName rest) :
    ReadsBack readQualifiedName before (renderQualifiedName name).toList rest name.toList ↔
      QuotableParts name.toList := by
  have hwritten : (renderQualifiedName name).toList = renderQualifiedNameChars name.toList :=
    String.toList_ofList
  rw [readsBack_iff, hwritten]
  constructor
  · intro hread
    have hparts := quotableParts_readQualifiedName
      (place before.length (renderQualifiedNameChars name.toList ++ rest))
    rwa [hread] at hparts
  · intro hparts
    exact readQualifiedName_place before.length hparts h

def spottyName : String :=
  "..a. .say \"it's\".b."

theorem readsBack_spottyName :
    EndsName " > x.y".toList ∧ QuotableParts spottyName.toList ∧
      ReadsBack readQualifiedName "Ref: \"".toList (renderQualifiedName spottyName).toList
        " > x.y".toList spottyName.toList := by
  have hrest : EndsName " > x.y".toList := endsName_cons.2 (by decide)
  have hparts : QuotableParts spottyName.toList := by decide +kernel
  exact ⟨hrest, hparts, (readsBack_renderQualifiedName_iff _ spottyName hrest).2 hparts⟩

theorem renderValue_eq_self_iff {value : String} :
    renderValue value = value ↔ needsQuotes value.toList = false := by
  rw [← String.toList_inj, toList_renderValue]
  split
  · next hq =>
    have hlonger : (quoteChars value.toList).length ≠ value.toList.length := by
      rw [quoteChars, List.length_append, List.length_cons]
      omega
    simp only [hq, Bool.true_eq_false, iff_false]
    exact fun he => hlonger (congrArg List.length he)
  · next hq => exact ⟨fun _ => Bool.eq_false_iff.2 hq, fun _ => rfl⟩

theorem readsBack_renderValue_iff (before rest : List Char) (value : String) {ch : Char}
    (h : ch = ',' ∨ ch = ']') :
    ReadsBack readValue before (renderValue value).toList (ch :: rest) value.toList ↔
      renderValue value = value ∨ Quotable value.toList := by
  rw [readsBack_iff, renderValue_eq_self_iff]
  constructor
  · intro hread
    have hquotable := quotable_readValue
      (place before.length ((renderValue value).toList ++ ch :: rest))
    rw [hread] at hquotable
    cases hq : needsQuotes value.toList with
    | false => exact .inl rfl
    | true => exact .inr (hquotable hq)
  · intro hvalue
    refine readValue_renderValue before.length (fun hq => ?_) h rest
    exact hvalue.resolve_left (by simp [hq])

end SchemaText.Diagram
