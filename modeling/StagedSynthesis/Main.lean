import StagedSynthesis.CommandLine

/-!
# The program

The outer layer of the command line: it looks up the files that a run may see, lets the function
`CommandLine.run` decide everything, and carries the outcome over to the terminal and the disk.
It starts no other program, so here a synthesis command lists stages or writes them to a script
file, which the synthesis tool can then run.
-/

namespace StagedSynthesis.CommandLine

/-- The paths that a run looks at. -/
def Reading.paths : Reading → List String
  | .request toolchain (.synth asked) =>
      toolchain.getD Toolchain.defaultFile :: asked.checkpoint.toList ++ asked.scriptFile.toList
  | .request toolchain _ => [toolchain.getD Toolchain.defaultFile]
  | _ => []

/-- The settings file that the arguments name. -/
def Reading.toolchain? : Reading → Option String
  | .request toolchain _ => toolchain
  | _ => none

/-- A tool that cannot be talked to. -/
def absentTool : Tool Unit where
  receive _ _ := .error FileProblem.notFound.message
  exitStatus _ := 0

/-- What stands at a path of the disk. Only a directory has a dot inside it. -/
def probe (path : String) : IO (Option FileEntry) := do
  try
    let _ ← IO.FS.realPath (path ++ "/.")
    return some .directory
  catch _ =>
    try
      return some (.file (← IO.FS.readBinFile path))
    catch _ =>
      return none

/-- The path that leads to a place from the root. -/
def pathTo (place : Place) : String :=
  "/" ++ Text.joined "/" place

/-- The tree with everything that stands along a path of the disk. -/
def addPath (files : Files) (path : String) : IO Files := do
  let mut files := files
  let mut place := files.startOf path
  for name in Files.namesOf path do
    if name = ".." then
      place := place.dropLast
    else if name ≠ "" ∧ name ≠ "." then
      place := place ++ [name]
      if let some entry ← probe (pathTo place) then
        files := files.put place entry
  return files

/-- The surroundings of a run with these arguments. -/
def surroundingsFor (reading : Reading) : IO (Surroundings Unit) := do
  let directory := toString (← IO.currentDir)
  let force ← IO.getEnv "CLICOLOR_FORCE"
  let mut files : Files := { working := (Files.namesOf directory).filter (· ≠ "") }
  for path in directory :: reading.paths do
    files ← addPath files path
  let surroundings : Surroundings Unit :=
    { files := files
      workingDirectory := directory
      temporaryName := ".tmpXXXXXX"
      colored := force.any (· ≠ "0")
      tool := absentTool
      started := () }
  if let .ok (some toolchain) := loadToolchain surroundings reading.toolchain? then
    if let some path := toolchain.toolPath then
      return { surroundings with files := ← addPath files path }
  return surroundings

/-- Write a file in full before it replaces what stands at its path. -/
def replaceFile (path : String) (content : ByteArray) : IO Unit := do
  let fresh := path ++ ".new"
  IO.FS.writeBinFile fresh content
  IO.FS.rename fresh path

end StagedSynthesis.CommandLine

open StagedSynthesis in
/-- Run the program with its arguments. -/
def main (arguments : List String) : IO UInt32 := do
  let surroundings ← CommandLine.surroundingsFor (CommandLine.Reading.ofArguments arguments)
  let outcome := CommandLine.run surroundings arguments
  for (path, content) in outcome.files.changesSince surroundings.files [] do
    CommandLine.replaceFile ("/" ++ path) content
  IO.print outcome.stdout
  IO.eprint outcome.stderr
  if outcome.exitCode = 2 then
    IO.eprint CommandLine.usage
  return UInt32.ofNat outcome.exitCode
