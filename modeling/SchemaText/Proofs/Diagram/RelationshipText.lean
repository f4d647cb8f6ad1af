import SchemaText.Diagram.Relationship
import SchemaText.Proofs.Diagram.DottedName
import SchemaText.Proofs.Diagram.Expressible
import SchemaText.Proofs.QualifiedName
/-! Relationships, written and read back. -/

namespace SchemaText.Diagram

def endpointName (table column : String) : List Char :=
  table.toList ++ '.' :: column.toList

theorem quotableParts_endpointName {table column : String} (h : QuotableParts table.toList)
    (k : Quotable column.toList) (d : '.' ∉ column.toList) :
    QuotableParts (endpointName table column) := by
  have hc : ∀ c ∈ column.toList, (c == '.') = false := by
    intro c hc
    simpa using fun e : c = '.' => d (e ▸ hc)
  intro part hp
  rw [endpointName, Text.split_append_cons (by simp), Text.split_eq_singleton hc,
    List.mem_append, List.mem_singleton] at hp
  rcases hp with hp | rfl
  · exact h part hp
  · exact k

theorem ofName?_endpointName (table : String) {column : String} (d : '.' ∉ column.toList) :
    Endpoint.ofName? (String.ofList (endpointName table column)) = some ⟨table, column⟩ := by
  have hs : QualifiedName.splitLast (String.ofList (endpointName table column)) =
      (some table, column) :=
    QualifiedName.splitLast_eq_some_iff.2 ⟨d, by rw [String.toList_ofList, endpointName]⟩
  rw [Endpoint.ofName?, hs]

def writtenCardinality (keep : Bool) (r : Relationship) : Cardinality :=
  if keep then r.cardinality else .oneToMany

theorem toList_renderRelationship (keep : Bool) (r : Relationship) :
    (renderRelationship keep r).toList = "Ref: ".toList ++
      (renderQualifiedNameChars (endpointName r.fromTable r.fromColumn) ++
        ' ' :: ((operator (writtenCardinality keep r)).toList ++
          ' ' :: renderQualifiedNameChars (endpointName r.toTable r.toColumn))) := by
  simp [renderRelationship, renderQualifiedName, endpointName, writtenCardinality]

namespace Cursor

theorem readOperator_place (n : Nat) (cardinality : Cardinality) (rest : List Char) :
    (place n ((operator cardinality).toList ++ ' ' :: rest)).readOperator =
      (cardinality, place (n + (operator cardinality).toList.length) (' ' :: rest)) := by
  cases cardinality <;> rfl

theorem readEndpoint_place (n : Nat) {table column : String} (h : QuotableParts table.toList)
    (k : Quotable column.toList) (d : '.' ∉ column.toList) {rest : List Char} (e : EndsName rest) :
    (place n (renderQualifiedNameChars (endpointName table column) ++ rest)).readEndpoint =
      (some ⟨table, column⟩,
        place (n + (renderQualifiedNameChars (endpointName table column)).length) rest) := by
  rw [readEndpoint, readQualifiedName_place n (quotableParts_endpointName h k d) e]
  simp only [ofName?_endpointName table d]

theorem readRelationship_place (keep : Bool) (n : Nat) {r : Relationship}
    (h : ExpressibleRelationship r) {rest : List Char} (k : EndsName rest) :
    (place n ((renderRelationship keep r).toList ++ rest)).readRelationship =
      ⟨some { r with cardinality := writtenCardinality keep r },
        place (n + (renderRelationship keep r).toList.length) rest, []⟩ := by
  have hw : (renderRelationship keep r).toList ++ rest = "Ref".toList ++ (':' :: ' ' ::
      (renderQualifiedNameChars (endpointName r.fromTable r.fromColumn) ++
        ' ' :: ((operator (writtenCardinality keep r)).toList ++
          ' ' :: (renderQualifiedNameChars (endpointName r.toTable r.toColumn) ++ rest)))) := by
    simp [toList_renderRelationship]
  have hl : n + (renderRelationship keep r).toList.length = n + "Ref".toList.length + 2 +
      (renderQualifiedNameChars (endpointName r.fromTable r.fromColumn)).length + 1 +
        (operator (writtenCardinality keep r)).toList.length + 1 +
          (renderQualifiedNameChars (endpointName r.toTable r.toColumn)).length := by
    simp [toList_renderRelationship]
    omega
  have hname (table column : String) (more : List Char) : Stops Text.isBlank
      (renderQualifiedNameChars (endpointName table column) ++ more) :=
    stops_renderQualifiedNameChars (fun _ => isBlank_eq_false_of_opensName) _ _
  have hoperator (more : List Char) : Stops Text.isBlank
      ((operator (writtenCardinality keep r)).toList ++ more) := by
    cases writtenCardinality keep r <;> exact stops_cons.2 (by decide)
  have hspace (more : List Char) : EndsName (' ' :: more) := endsName_cons.2 (by decide)
  have hkeyword (more : List Char) : (place n ("Ref".toList ++ ':' :: more)).skipKeyword =
      place (n + "Ref".toList.length) (':' :: more) :=
    skipKeyword_place n (by decide) (stops_cons.2 (by decide))
  have hcolon (m : Nat) (more : List Char) :
      (place m (':' :: more)).skipBlank = place m (':' :: more) :=
    skipBlank_place_of_stops m (stops_cons.2 (by decide))
  have hstart (m : Nat) {more : List Char} (hm : Stops Text.isBlank more) :
      (place m (':' :: ' ' :: more)).skipRelationshipName = place (m + 2) more := by
    rw [skipRelationshipName, stopsAt_place_cons, if_pos (by decide), skipOptional_place_colon m hm]
  have hfrom (m : Nat) {more : List Char} (he : EndsName more) :=
    readEndpoint_place m h.fromTable_quotable h.fromColumn_quotable h.fromColumn_dotFree he
  have hto (m : Nat) := readEndpoint_place m h.toTable_quotable h.toColumn_quotable
    h.toColumn_dotFree k
  rw [hw, hl]
  simp only [readRelationship, hkeyword, hcolon,
    hstart _ (hname _ _ _), hfrom _ (hspace _), skipBlank_place_space _ (hoperator _),
    readOperator_place, skipBlank_place_space _ (hname _ _ _), hto]
  rw [← h.label_none]

end Cursor

end SchemaText.Diagram
