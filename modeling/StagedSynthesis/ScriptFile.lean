import StagedSynthesis.Executor

/-!
# Script files

A back end that writes the commands down instead of running them. The resulting text is a script
which reads the inputs and then runs the recorded commands.
-/

namespace StagedSynthesis

/-- The commands of a script file in the making. -/
structure ScriptFile where
  inputs : List String
  /-- The recorded commands in order. -/
  commands : Array String := #[]

/-- The command that reads a source file into the design. -/
def readCommand (input : String) : String :=
  Text.commandLine "read_verilog" [Text.fileArgument input]

namespace ScriptFile

/-- The file with one more command. -/
def record (file : ScriptFile) (command : String) : ScriptFile :=
  { file with commands := file.commands.push command }

/-- The text of the file: a comment line, the commands that read the inputs, and the recorded
commands. -/
def text (file : ScriptFile) (header : String) : String :=
  Text.lines (("# " ++ header) :: file.inputs.map readCommand ++ file.commands.toList)

/-- The back end that records every command and never fails. -/
def backend : Backend ScriptFile Unit where
  checkReady _ := .ok ()
  invoke file invoker invocation :=
    { design := file.record invocation.command, invoker := invoker, result := .ok () }

end ScriptFile

end StagedSynthesis
