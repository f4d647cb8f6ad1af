import SchemaText.Command.Host
import SchemaText.Pattern.Search
/-! The reader of command lines that the program uses: words by themselves, options with values and
options that are turned on or off. -/

namespace SchemaText.Command

namespace Numeral

open Pattern

def letter (c : Char) : Pattern :=
  one (·.toLower == c)

def letters (name : String) : Pattern :=
  name.toList.foldr (fun c p => letter c ++ p) empty

def sign : Pattern :=
  one fun c => c == '+' || c == '-'

def digits : Pattern :=
  one Text.isDigit ++ repeated (optional (char '_') ++ one Text.isDigit)

def decimal : Pattern :=
  digits ++ optional (char '.' ++ optional digits) <|> char '.' ++ digits

def magnitude : Pattern :=
  decimal ++ optional (letter 'e' ++ optional sign ++ digits) <|>
    letters "infinity" <|> letters "inf" <|> letters "nan"

def number : Pattern :=
  optional sign ++ magnitude ++ optional (sign ++ optional magnitude) ++ letter 'j' <|>
    optional sign ++ magnitude <|> optional sign ++ letter 'j'

def isSpace (c : Char) : Bool :=
  Text.isBlank c && !(28 ≤ c.toNat && c.toNat ≤ 31)

def isNumeral (word : String) : Bool :=
  ((number ++ most isSpace).matchWhole word.toList).isSome

end Numeral

namespace CommandLine

structure Options where
  valued : List String
  flags : List String

def flagOption (name : String) (on : Bool) : String :=
  if on then "--" ++ name else "--no-" ++ name

def Options.flag? (options : Options) (word : String) : Option (String × Bool) :=
  options.flags.findSome? fun name =>
    ([true, false].find? fun on => flagOption name on == word).map fun on => (name, on)

def Options.joined? (options : Options) (word : String) : Option (String × String) :=
  options.valued.findSome? fun name =>
    let opening := (name ++ "=").toList
    if opening.isPrefixOf word.toList then
      some (name, String.ofList (word.toList.drop opening.length))
    else none

structure Words where
  positional : List String := []
  valued : List (String × String) := []
  flags : List (String × Bool) := []
  deriving Repr, DecidableEq

def isOption (word : String) : Bool :=
  word.toList.head? == some '-' && !Numeral.isNumeral word

/-- What a word by itself is, if it is known: two hyphens end the options, so that all words `after`
them stand by themselves, and `sorted` are these words otherwise. -/
def sortWord (options : Options) (word : String) (after : List String) (sorted : Option Words) :
    Option Words :=
  if word = "--" then some { positional := after }
  else
    match options.flag? word with
    | some flag => sorted.map fun w => { w with flags := flag :: w.flags }
    | none =>
      match options.joined? word with
      | some value => sorted.map fun w => { w with valued := value :: w.valued }
      | none =>
        if isOption word then none
        else sorted.map fun w => { w with positional := word :: w.positional }

def sortWords (options : Options) : List String → Option Words
  | [] => some {}
  | [word] => sortWord options word [] (some {})
  | word :: value :: rest =>
    if options.valued.contains word then
      (sortWords options rest).map fun w => { w with valued := (word, value) :: w.valued }
    else sortWord options word (value :: rest) (sortWords options (value :: rest))

namespace Words

def told? {α : Type} (told : List (String × α)) (name : String) : Option (Option α) :=
  match told.filter (·.1 == name) with
  | [] => some none
  | [(_, value)] => some (some value)
  | _ => none

def value? {α : Type} (words : Words) (option : String) (absent : α) (read? : String → Option α) :
    Option α := do
  (← told? words.valued option).elim (some absent) read?

def flag? (words : Words) (name : String) (absent : Bool) : Option Bool :=
  (told? words.flags name).map (·.getD absent)

def source? (words : Words) : Option Path := do
  match words.positional, ← told? words.valued "--source" with
  | [text], none | [], some text => some (Path.ofText text)
  | _, _ => none

end Words

def parse? (words : List String) : Option Request := do
  let words ← sortWords
    ⟨["--source", "--dialect", "--fmt", "--sql-dialect"],
      ["strict", "preserve-cardinality", "verbose"]⟩ words
  let _ ← words.flag? "verbose" false
  return .parse {
    source := ← words.source?
    language := ← words.value? "--dialect" none languageOfName?
    format := ← words.value? "--fmt" .json Format.ofName?
    sqlDialect := ← words.value? "--sql-dialect" .postgresql Export.Dialect.ofName?
    strict := ← words.flag? "strict" false
    keepCardinality := ← words.flag? "preserve-cardinality" true }

def convert? (words : List String) : Option Request := do
  let words ← sortWords ⟨[], ["preserve-cardinality", "verbose"]⟩ words
  let _ ← words.flag? "verbose" false
  let keepCardinality ← words.flag? "preserve-cardinality" true
  if words.positional.isEmpty then none
  else return .convert (words.positional.map Path.ofText) keepCardinality

def check? (words : List String) : Option Request := do
  let words ← sortWords ⟨["--source", "--dialect"], ["verbose"]⟩ words
  let _ ← words.flag? "verbose" false
  return .check (← words.source?) (← words.value? "--dialect" none languageOfName?)

def request? : List String → Option Request
  | "parse" :: words => parse? words
  | "convert" :: words => convert? words
  | "check" :: words => check? words
  | _ => none

/-- A command line that asks for help is answered with a text of the reader's own, and one that
makes no sense with its complaint, of which only the exit status is known. -/
def read (words : List String) : Except Outcome Request :=
  if words.any fun word => word = "--help" ∨ word = "-h" ∨ word = "--version" then
    .error { exit := 0 }
  else
    match request? words with
    | some request => .ok request
    | none => .error { exit := 2 }

end CommandLine

end SchemaText.Command
