import SchemaText.Text.Character
/-! Patterns of text, matched in a fixed order of preference. -/

namespace SchemaText

/-- A shape of text. Where it can be met in several ways, the order of preference is: the first of
two choices, the body of an optional part rather than nothing, one more round rather than none, the
longest run for `most` and the shortest for `fewest`. -/
inductive Pattern where
  | empty
  | one (accepts : Char → Bool)
  | most (accepts : Char → Bool)
  | fewest (accepts : Char → Bool)
  | sequence (first second : Pattern)
  | choice (first second : Pattern)
  | optional (body : Pattern)
  | repeated (body : Pattern)
  | group (name : String) (body : Pattern)
  | wordEdge
  | textStart
  | textEnd

namespace Pattern

instance : Append Pattern := ⟨sequence⟩

instance : OrElse Pattern := ⟨fun first second => choice first (second ())⟩

structure Capture where
  name : String
  offset : Nat
  rest : List Char
  length : Nat
  deriving Repr, DecidableEq

def Capture.text (c : Capture) : List Char :=
  c.rest.take c.length

/-- A place in a text with the captures on the way to it, the latest one first. -/
structure Spot where
  offset : Nat
  before : Option Char
  rest : List Char
  captures : List Capture := []
  deriving Repr, DecidableEq

namespace Spot

def atWordEdge (s : Spot) : Bool :=
  s.before.any Text.isWord != s.rest.head?.any Text.isWord

def atTextEnd (s : Spot) : Bool :=
  s.rest == [] || s.rest == ['\n']

def after (s : Spot) (c : Char) (rest : List Char) : Spot :=
  ⟨s.offset + 1, some c, rest, s.captures⟩

def capture (s : Spot) (name : String) (start : Spot) : Spot :=
  { s with
    captures := ⟨name, start.offset, start.rest, s.offset - start.offset⟩ :: s.captures }

def runFrom (accepts : Char → Bool) (captures : List Capture) :
    Nat → Option Char → List Char → List Spot
  | offset, before, [] => [⟨offset, before, [], captures⟩]
  | offset, before, c :: rest =>
    ⟨offset, before, c :: rest, captures⟩ ::
      if accepts c then runFrom accepts captures (offset + 1) (some c) rest else []

def run (accepts : Char → Bool) (s : Spot) : List Spot :=
  runFrom accepts s.captures s.offset s.before s.rest

def all (text : List Char) : List Spot :=
  runFrom (fun _ => true) [] 0 none text

end Spot

/-- Tries rounds of a step, one more before going on; a round has to move ahead. -/
def rounds {β : Type} (step : (Spot → Option β) → Spot → Option β) (goOn : Spot → Option β) :
    Nat → Spot → Option β
  | 0, s => goOn s
  | bound + 1, s =>
    step (fun t => if s.offset < t.offset then rounds step goOn bound t else none) s <|> goOn s

/-- Tries the ways to meet a pattern from a place, in order of preference, until `goOn` succeeds
behind one of them. -/
def tryAt {β : Type} : Pattern → (Spot → Option β) → Spot → Option β
  | empty, goOn, s => goOn s
  | one accepts, goOn, s =>
    match s.rest with
    | [] => none
    | c :: rest => if accepts c then goOn (s.after c rest) else none
  | most accepts, goOn, s => (s.run accepts).reverse.findSome? goOn
  | fewest accepts, goOn, s => (s.run accepts).findSome? goOn
  | sequence first second, goOn, s => first.tryAt (second.tryAt goOn) s
  | choice first second, goOn, s => first.tryAt goOn s <|> second.tryAt goOn s
  | optional body, goOn, s => body.tryAt goOn s <|> goOn s
  | repeated body, goOn, s => rounds body.tryAt goOn s.rest.length s
  | group name body, goOn, s => body.tryAt (fun t => goOn (t.capture name s)) s
  | wordEdge, goOn, s => if s.atWordEdge then goOn s else none
  | textStart, goOn, s => if s.offset = 0 then goOn s else none
  | textEnd, goOn, s => if s.atTextEnd then goOn s else none

def groupNames : Pattern → List String
  | sequence first second | choice first second => first.groupNames ++ second.groupNames
  | optional body | repeated body => body.groupNames
  | group name body => name :: body.groupNames
  | _ => []

def char (c : Char) : Pattern :=
  one (· == c)

def oneOrMore (accepts : Char → Bool) : Pattern :=
  one accepts ++ most accepts

def word (letters : String) : Pattern :=
  letters.toList.foldr (fun c p => one (Text.sameLetter c) ++ p) empty

def gap : Pattern :=
  most Text.isBlank

def blanks : Pattern :=
  oneOrMore Text.isBlank

def phrase : List String → Pattern
  | [] => empty
  | [letters] => word letters
  | letters :: rest => word letters ++ blanks ++ phrase rest

def spaced : List Pattern → Pattern
  | [] => empty
  | [part] => part
  | part :: parts => part ++ gap ++ spaced parts

end Pattern

end SchemaText
