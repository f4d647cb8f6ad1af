/-! Comments in SQL texts, taken out without moving anything else. -/

namespace SchemaText.Sql.Comment

def foldLineEnds : List Char → List Char
  | [] => []
  | '\r' :: '\n' :: rest => ' ' :: '\n' :: foldLineEnds rest
  | c :: rest => c :: foldLineEnds rest

def blank (c : Char) : Char :=
  if c = '\n' then '\n' else ' '

def blankLines : (inComment : Bool) → List Char → List Char
  | _, [] => []
  | true, c :: rest => blank c :: blankLines (c ≠ '\n') rest
  | false, '-' :: '-' :: rest => ' ' :: ' ' :: blankLines true rest
  | false, c :: rest => c :: blankLines false rest

def closes : List Char → Bool
  | [] => false
  | c :: rest => ['*', '/'].isPrefixOf (c :: rest) || closes rest

def blankBlocks : (inComment : Bool) → List Char → List Char
  | _, [] => []
  | true, '*' :: '/' :: rest => ' ' :: ' ' :: blankBlocks false rest
  | true, c :: rest => blank c :: blankBlocks true rest
  | false, '/' :: '*' :: rest =>
    if closes rest then ' ' :: ' ' :: blankBlocks true rest
    else '/' :: '*' :: blankBlocks false rest
  | false, c :: rest => c :: blankBlocks false rest

/-- Blanks all comments: first those of lines, then those of blocks. -/
def strip (sql : List Char) : List Char :=
  blankBlocks false (blankLines false (foldLineEnds sql))

end SchemaText.Sql.Comment
