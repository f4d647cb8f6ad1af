import SchemaText.Pattern.Basic
/-! Finding patterns in a text. -/

namespace SchemaText.Pattern

/-- Where a pattern was met, and by what its groups were. -/
structure Match where
  start : Nat
  stop : Nat
  captures : List Capture
  deriving Repr, DecidableEq

def Match.capture? (m : Match) (name : String) : Option Capture :=
  m.captures.find? (·.name == name)

def Match.text? (m : Match) (name : String) : Option (List Char) :=
  (m.capture? name).map Capture.text

def Match.text (m : Match) (name : String) : List Char :=
  (m.text? name).getD []

def matchAt (p : Pattern) (s : Spot) : Option Match :=
  p.tryAt (fun t => some ⟨s.offset, t.offset, t.captures⟩) s

def matchStart (p : Pattern) (text : List Char) : Option Match :=
  p.matchAt ⟨0, none, text, []⟩

def matchWhole (p : Pattern) (text : List Char) : Option Match :=
  p.tryAt (fun t => if t.rest = [] then some ⟨0, t.offset, t.captures⟩ else none)
    ⟨0, none, text, []⟩

def search (p : Pattern) (text : List Char) : Option Match :=
  (Spot.all text).findSome? p.matchAt

def findFrom (p : Pattern) : Nat → List Spot → List Match
  | _, [] => []
  | free, s :: spots =>
    if s.offset < free then p.findFrom free spots
    else
      match p.matchAt s with
      | none => p.findFrom free spots
      | some m => m :: p.findFrom (max m.stop (s.offset + 1)) spots

/-- All matches in a text that do not overlap, from the left. -/
def findAll (p : Pattern) (text : List Char) : List Match :=
  p.findFrom 0 (Spot.all text)

end SchemaText.Pattern
