import SchemaText.Command.Run
/-! The program: looks at the files that its command line names, and answers it. -/

namespace SchemaText.Main

open Command

def lookAt (path : Path) : IO (Option Entry) := do
  let place := (← IO.currentDir) / path.text
  if ← place.isDir then
    return some (.directory ((← place.readDir).toList.map (·.fileName)))
  else if ← place.pathExists then
    try return some (.file (← IO.FS.readBinFile place).toList)
    catch reason => return some (.unreadable (toString reason))
  else
    return none

def snapshot (request : Request) : IO (List (Path × Entry)) := do
  let mut found := []
  for path in request.paths do
    match ← lookAt path with
    | none => pure ()
    | some (.directory names) =>
      found := (path, Entry.directory names) :: found
      for name in names.filter isSqlName do
        if let some entry ← lookAt (path.child name) then
          found := (path.child name, entry) :: found
    | some entry => found := (path, entry) :: found
  return found

def answer (words : List String) : IO Outcome := do
  match program.readWords words with
  | .error outcome => return outcome
  | .ok request =>
    let found ← snapshot request
    return program.runRequest (fun path => found.lookup path) request

end SchemaText.Main

def main (words : List String) : IO UInt32 := do
  let outcome ← SchemaText.Main.answer words
  IO.eprint outcome.errorText
  IO.print outcome.output
  if let some fault := outcome.fault then
    IO.eprintln fault.message
  return outcome.exit.toUInt32
