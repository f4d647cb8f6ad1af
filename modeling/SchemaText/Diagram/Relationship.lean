import SchemaText.Schema
import SchemaText.Diagram.Lexeme
import SchemaText.Diagram.Notice
/-! Relationships: two endpoints and an operator between them. -/

namespace SchemaText.Diagram

structure Endpoint where
  table : String
  column : String
  deriving Repr, DecidableEq

def Endpoint.ofName? (name : String) : Option Endpoint :=
  match QualifiedName.splitLast name with
  | (some table, column) => some ⟨table, column⟩
  | (none, _) => none

namespace Cursor

def readEndpoint (c : Cursor) : Option Endpoint × Cursor :=
  let name := c.readQualifiedName
  (Endpoint.ofName? (String.ofList name.1), name.2)

theorem reaches_readEndpoint (c : Cursor) : c.Reaches c.readEndpoint.2 :=
  reaches_readQualifiedName c

def readOperator (c : Cursor) : Cardinality × Cursor :=
  match c.rest with
  | '<' :: '>' :: _ => (.manyToMany, c.next.next)
  | '<' :: _ => (.manyToOne, c.next)
  | '>' :: _ => (.oneToMany, c.next)
  | '-' :: '-' :: _ => (.oneToOne, c.next.next)
  | '-' :: _ => (.oneToMany, c.next)
  | _ => (.oneToMany, c)

theorem reaches_readOperator (c : Cursor) : c.Reaches c.readOperator.2 := by
  have h := reaches_next c
  unfold readOperator
  split
  · exact h.trans (reaches_next _)
  · exact h
  · exact h
  · exact h.trans (reaches_next _)
  · exact h
  · exact Reaches.refl c

def skipRelationshipName (c : Cursor) : Cursor :=
  if c.stopsAt ':' then c.skipOptional ':' else (c.readName.2.skipBlank).skipOptional ':'

theorem reaches_skipRelationshipName (c : Cursor) : c.Reaches c.skipRelationshipName := by
  unfold skipRelationshipName
  split
  · exact reaches_skipOptional ':' c
  · exact (reaches_readName c).trans ((reaches_skipBlank _).trans (reaches_skipOptional ':' _))

/-- Reads a relationship from its keyword. Reading goes on at the first endpoint that is not
complete, so that a definition in its place is not lost. -/
def readRelationship (c : Cursor) : Step (Option Relationship) :=
  let start := c.skipKeyword.skipBlank.skipRelationshipName
  let source := start.readEndpoint
  let operator := source.2.skipBlank.readOperator
  let middle := operator.2.skipBlank
  let target := middle.readEndpoint
  match source.1, target.1 with
  | some a, some b =>
    ⟨some
      { fromTable := a.table, fromColumn := a.column
        toTable := b.table, toColumn := b.column
        cardinality := operator.1 }, target.2, []⟩
  | some _, none => ⟨none, middle, c.report .endpointsIncomplete⟩
  | none, _ => ⟨none, start, c.report .endpointsIncomplete⟩

theorem reaches_skipKeyword_readRelationship (c : Cursor) :
    c.skipKeyword.Reaches c.readRelationship.next := by
  have hs := (reaches_skipBlank c.skipKeyword).trans (reaches_skipRelationshipName _)
  have hm := hs.trans ((reaches_readEndpoint _).trans ((reaches_skipBlank _).trans
    ((reaches_readOperator _).trans (reaches_skipBlank _))))
  unfold readRelationship
  dsimp only
  split
  · exact hm.trans (reaches_readEndpoint _)
  · exact hm
  · exact hs

end Cursor

end SchemaText.Diagram
