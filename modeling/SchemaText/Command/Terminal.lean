import SchemaText.Command.Host
import SchemaText.Text.Emoji
import SchemaText.Text.Wrap
/-! The console that the program uses, which shows texts as a terminal does and draws tables with
ruled lines. It has no marks of its own. -/

namespace SchemaText.Command

namespace Terminal

def isShown (c : Char) : Bool :=
  !([7, 8, 11, 12, 13].contains c.toNat)

def shown (text : String) : List Char :=
  (Text.withEmoji text.toList).filter isShown

def lines (text : String) : List (List Char) :=
  (Text.split (· == '\n') (shown text)).map Text.expandTabs

def print (text : String) : String :=
  String.ofList ((lines text).flatMap fun line => line ++ ['\n'])

end Terminal

namespace DiagnosticTable

def title : String :=
  "Parse Diagnostics"

def headers : List String :=
  ["Offset", "Construct", "Message"]

def wantedWidth (text : String) : Nat :=
  ((Text.split Text.isLineEnd (Terminal.shown text)).map Text.cells).foldl max 0

def cellLines (width : Nat) (text : String) : List (List Char) :=
  (Terminal.lines text).flatMap (Text.wrap width)

def cells (d : Diagnostic) : List String :=
  [toString d.offset, d.construct.word, d.message]

def spaces (n : Nat) : List Char :=
  List.replicate n ' '

def missing (width : Nat) (line : List Char) : List Char :=
  spaces (width - Text.cells line)

def fill (toRight : Bool) (width : Nat) (line : List Char) : List Char :=
  if toRight then missing width line ++ line
  else
    let filled := line ++ missing width line
    filled ++ missing width filled

def rowLine (bar : Char) (widths : List Nat) (texts : List (List Char)) : List Char :=
  let filled := (widths.zip texts).zipIdx.map fun ((width, text), i) => fill (i == 0) width text
  bar :: filled.flatMap fun cell => ' ' :: cell ++ [' ', bar]

def rule (left line joint right : Char) (widths : List Nat) : List Char :=
  left :: [joint].intercalate (widths.map fun width => List.replicate (width + 2) line) ++ [right]

def rowLines (widths : List Nat) (row : List String) : List (List Char) :=
  let columns := (widths.zip row).map fun (width, text) => cellLines width text
  let height := columns.foldl (fun n column => max n column.length) 1
  (List.range height).map fun i => rowLine '│' widths (columns.map fun column => column[i]?.getD [])

def titleLine (width : Nat) : List Char :=
  let free := width - title.length
  spaces (free / 2) ++ title.toList ++ spaces (free - free / 2)

def columnWidths (rows : List (List String)) : List Nat :=
  (List.range headers.length).map fun i =>
    ((headers :: rows).map fun row => wantedWidth (row[i]?.getD "")).foldl max 0

def lines (diagnostics : List Diagnostic) : List (List Char) :=
  let rows := diagnostics.map cells
  let widths := columnWidths rows
  let top := rule '┏' '━' '┳' '┓' widths
  [titleLine top.length, top, rowLine '┃' widths (headers.map String.toList),
    rule '┡' '━' '╇' '┩' widths] ++
    rows.flatMap (rowLines widths) ++ [rule '└' '─' '┴' '┘' widths]

def render (diagnostics : List Diagnostic) : String :=
  String.ofList ((lines diagnostics).flatMap fun line => line ++ ['\n'])

end DiagnosticTable

def terminal : Console where
  prints _ := true
  table? diagnostics := some (DiagnosticTable.render diagnostics)

def Status.line (status : Status) : String :=
  Terminal.print status.text

def Outcome.errorText (outcome : Outcome) : String :=
  String.join (outcome.statuses.map Status.line)

end SchemaText.Command
