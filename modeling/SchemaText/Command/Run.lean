import SchemaText.Export.Compiler
import SchemaText.Command.CommandLine
import SchemaText.Command.Terminal
/-! What the program answers. -/

namespace SchemaText.Command

def program : Host where
  console := terminal
  library := Export.compiler
  readWords := CommandLine.read

def run (files : Files) (words : List String) : Outcome :=
  program.run files words

end SchemaText.Command
