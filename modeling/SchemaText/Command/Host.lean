import SchemaText.Diagram.Document
import SchemaText.Diagram.Printer
import SchemaText.Sql.Script
import SchemaText.Export.Definition
import SchemaText.Command.Json
import SchemaText.Command.Request
/-! What the commands answer, whatever console, library and reader of command lines they use. -/

namespace SchemaText.Command

/-- A line that tells how a command is getting on. -/
inductive Status where
  | info (text : String)
  | success (text : String)
  | error (text : String)
  deriving Repr, DecidableEq

def Status.text : Status → String
  | info text => "i " ++ text
  | success text => "✓ " ++ text
  | error text => "Error: " ++ text

/-- The exit status of a command, what it writes, its status lines, and the fault that broke it off
without a line of its own, if one did. -/
structure Outcome where
  exit : Nat
  output : String := ""
  statuses : List Status := []
  fault : Option Export.Fault := none
  deriving Repr, DecidableEq

namespace Outcome

def failed (message : String) : Outcome :=
  { exit := 1, statuses := [.error message] }

def brokenOff (fault : Export.Fault) : Outcome :=
  { exit := 1, fault := some fault }

def interrupted : Outcome :=
  { exit := 1 }

end Outcome

/-- What prints status lines and draws diagnostics. It may refuse a text that it takes for marks of
its own, which interrupts the command. -/
structure Console where
  prints : Status → Bool
  table? : List Diagnostic → Option String

namespace Console

variable (console : Console)

def before (status : Status) (outcome : Outcome) : Outcome :=
  if console.prints status then { outcome with statuses := status :: outcome.statuses }
  else .interrupted

def fail (message : String) : Outcome :=
  if console.prints (.error message) then .failed message else .interrupted

def write (text report : String) : Outcome :=
  { console.before (.success report) { exit := 0 } with output := text }

def reportDiagnostics (diagnostics : List Diagnostic) : Outcome :=
  if diagnostics.isEmpty then console.write "" "No diagnostics"
  else
    match console.table? diagnostics with
    | none => .interrupted
    | some table =>
      { console.fail (toString diagnostics.length ++ " constructs were skipped") with
        output := table }

end Console

/-- What the commands use. A reader of command lines may answer by itself. -/
structure Host where
  console : Console
  library : Export.Library
  readWords : List String → Except Outcome Request

def readIn (language : Language) (text : List Char) : Reading :=
  match language with
  | .dsl => Diagram.read (String.ofList text)
  | .sql => Sql.read (String.ofList text)

structure ReadSource where
  reading : Reading
  status : Status

def readFileIn (files : Files) (path : Path) (language : Option Language) :
    Except SourceFault ReadSource := do
  let text ← readFile files path
  let language := language.getD (Language.detect path text)
  return ⟨readIn language text,
    .info ("Source: " ++ path.text ++ " (" ++ language.name ++ ")")⟩

def counts (schema : Schema) : String :=
  "Parsed " ++ toString schema.tables.length ++ " tables, " ++
    toString schema.relationships.length ++ " relationships and " ++
    toString schema.enumerations.length ++ " enums"

namespace Host

variable (host : Host)

def renderAs (request : ParseRequest) (schema : Schema) : Except Export.Fault String :=
  match request.format with
  | .json => .ok ((Json.ofSchema schema).render 0)
  | .dsl => .ok (Diagram.render request.keepCardinality schema)
  | .sql => host.library.render request.sqlDialect schema

def exportFailed (fault : Export.Fault) : Outcome :=
  if fault.kind = .value ∨ fault.kind = .text then .brokenOff fault
  else host.console.fail ("SQL generation failed: " ++ fault.message)

def renderReading (request : ParseRequest) (reading : Reading) : Outcome :=
  match reading.accept request.strict with
  | .error rejection => host.console.fail rejection.message
  | .ok schema =>
    match host.renderAs request schema with
    | .error fault => host.exportFailed fault
    | .ok text => host.console.write text (counts schema)

def runParse (files : Files) (request : ParseRequest) : Outcome :=
  match readFileIn files request.source request.language with
  | .error fault => host.console.fail fault.message
  | .ok source =>
    host.console.before source.status <|
      host.console.before (.info ("Output format: " ++ request.format.name)) <|
        host.renderReading request source.reading

def convertTexts (keepCardinality : Bool) (texts : List (List Char)) : Outcome :=
  let sql := String.ofList (['\n'].intercalate texts)
  host.console.write (Diagram.render keepCardinality (Sql.read sql).schema)
    ("Converted " ++ toString texts.length ++ " files")

def runConvert (files : Files) (sources : List Path) (keepCardinality : Bool) : Outcome :=
  match collect files sources with
  | .error fault => host.console.fail fault.message
  | .ok [] => host.console.fail SourceFault.noSources.message
  | .ok paths =>
    let result : Outcome :=
      match paths.mapM (readSource files) with
      | .error fault => host.console.fail fault.message
      | .ok texts => host.convertTexts keepCardinality texts
    paths.foldr (fun path => host.console.before (.info ("Source: " ++ path.text))) result

def runCheck (files : Files) (source : Path) (language : Option Language) : Outcome :=
  match readFileIn files source language with
  | .error fault => host.console.fail fault.message
  | .ok read =>
    host.console.before read.status (host.console.reportDiagnostics read.reading.diagnostics)

def runRequest (files : Files) : Request → Outcome
  | .parse request => host.runParse files request
  | .convert sources keepCardinality => host.runConvert files sources keepCardinality
  | .check source language => host.runCheck files source language

def run (files : Files) (words : List String) : Outcome :=
  match host.readWords words with
  | .ok request => host.runRequest files request
  | .error answer => answer

end Host

end SchemaText.Command
