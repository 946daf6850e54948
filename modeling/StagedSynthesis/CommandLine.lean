import StagedSynthesis.CommandLine.Arguments
import StagedSynthesis.CommandLine.Report
import StagedSynthesis.Files
import StagedSynthesis.Session
import StagedSynthesis.Toolchain

/-!
# The command line

The whole program as a function. From the arguments, the files, the tool and the settings of the
terminal it computes the exit code, what is printed, the files afterwards and the state of the tool
if it was started.
-/

namespace StagedSynthesis.CommandLine

/-- The version of the program. -/
def version : String :=
  "0.1.0"

/-- What surrounds a run of the program. -/
structure Surroundings (τ : Type) where
  files : Files
  /-- The working directory as it is printed. -/
  workingDirectory : String
  /-- The name that a temporary file gets. -/
  temporaryName : String
  /-- Whether reports are coloured. -/
  colored : Bool
  /-- How the synthesis tool behaves. -/
  tool : Tool τ
  /-- The synthesis tool when it has just been started. -/
  started : τ

/-- What a run of the program leaves behind. -/
structure Outcome (τ : Type) where
  exitCode : Nat := 0
  stdout : String := ""
  stderr : String := ""
  files : Files
  /-- The state of the tool, if it was started. -/
  process : Option τ := none

/-- Why a synthesis command failed. -/
inductive SynthFailure where
  | synthesis (problem : Problem)
  | session (problem : SessionProblem)
  /-- The configured tool does not exist. -/
  | toolMissing (path : String)
  /-- No tool is configured and none is found. -/
  | toolNotFound
  | toolNotStarted (path : String) (problem : FileProblem)
  /-- No temporary file could be made in a directory. -/
  | fileNotCreated (directory path : String) (problem : FileProblem)
  /-- A finished file could not be moved to its path. -/
  | fileNotMoved (path : String) (problem : FileProblem)
  deriving DecidableEq, Repr

namespace SynthFailure

/-- The message of the failure. -/
def message : SynthFailure → String
  | .synthesis problem => problem.message
  | .session problem => problem.message
  | .toolMissing path => "yosys_path from toolchain config does not exist: " ++ path
  | .toolNotFound =>
      "yosys not found on PATH; set toolchain.yosys_path: cannot find binary path"
  | .toolNotStarted path problem =>
      "failed to start yosys at " ++ path ++ ": " ++ problem.message
  | .fileNotCreated directory path problem =>
      "creating temporary file in " ++ directory ++ ": " ++ problem.message ++ " at path " ++
        Text.quoted path
  | .fileNotMoved path problem =>
      "writing script to " ++ path ++ ": failed to persist temporary file: " ++
        problem.message ++ ": " ++ problem.message

/-- The details that are reported with the failure. -/
def details : SynthFailure → List (String × String)
  | .synthesis (.operationFailed stage command _) => [("stage", stage), ("operation", command)]
  | .synthesis problem => [("error kind", problem.kind.name)]
  | _ => []

/-- The report of the failure. -/
def report (failure : SynthFailure) : Report where
  command := some "synth"
  message := failure.message
  details := failure.details

end SynthFailure

/-- The options of a synthesis command, completed by the settings of the installation. -/
def optionsOf (request : SynthRequest) (toolchain : Option Toolchain) : Options where
  family := request.family <|> toolchain.bind Toolchain.defaultFamily
  top := request.top
  switches := request.switches
  outputs := request.outputs
  libraryPath := request.libraryPath <|> toolchain.bind Toolchain.libraryPath
  shareDirectory := toolchain.bind Toolchain.shareDirectory
  delay := request.delay <|> toolchain.bind Toolchain.delay
  explain := request.explain

/-- The range of stages that a synthesis command asks for. -/
def rangeOf (request : SynthRequest) : StageRange :=
  match request.range with
  | some text => StageRange.parse text
  | none => StageRange.everything

/-- A talk with the tool from the first command to the last. The design is read from the saved
checkpoint if there are no inputs, and from the inputs otherwise; a failure to read ends the talk.
Then the selected stages are run, the design is saved whether or not the run succeeded, and the tool
is told to exit. Of the failures the first one counts. -/
def converse {τ : Type} (tool : Tool τ) (session : Session τ) (executor : Executor)
    (inputs : List String) (checkpoint : Option String) (saved : Bool) :
    Session τ × Except SynthFailure Unit :=
  let (session, loaded) := match checkpoint with
    | some path =>
        if inputs.isEmpty && saved then session.readCheckpoint tool path
        else session.readInputs tool inputs
    | none => session.readInputs tool inputs
  match loaded with
  | .error problem => (session, .error (.session problem))
  | .ok () =>
      let run := executor.run (Session.backend tool) session ()
      let (session, written) := match checkpoint with
        | some path => run.design.writeCheckpoint tool path
        | none => (run.design, .ok ())
      let (session, finished) := session.finish tool
      (session, do
        run.result.mapError .synthesis
        written.mapError .session
        finished.mapError .session)

/-- Write a script file next to its path and move it into place, so that no half-written script is
ever seen. A script that cannot be moved stays where it was written. -/
def writeScript {τ : Type} (surroundings : Surroundings τ) (path text : String) :
    Files × Except SynthFailure Unit :=
  let files := surroundings.files
  let directory := Files.directoryOf path
  let absolute :=
    if directory.toList.head? = some '/' then directory
    else Files.pathIn surroundings.workingDirectory directory
  let unfinished := Files.pathIn absolute surroundings.temporaryName
  let failure := SynthFailure.fileNotCreated directory unfinished
  if Files.isTooLong unfinished then (files, .error (failure .nameTooLong))
  else
    match files.find directory with
    | .error problem => (files, .error (failure problem))
    | .ok (place, .directory) =>
        let temporary := place ++ [surroundings.temporaryName]
        let written := files.put temporary (.file text.toUTF8)
        match written.move temporary text.toUTF8 path with
        | .ok moved => (moved, .ok ())
        | .error problem => (written, .error (.fileNotMoved path problem))
    | .ok _ => (files, .error (failure .notDirectory))

/-- The path of the tool: the configured one if it exists, or the one found by name. -/
def toolPath (files : Files) (toolchain : Option Toolchain) : Except SynthFailure String :=
  match toolchain.bind Toolchain.toolPath with
  | some path => if files.has path then .ok path else .error (.toolMissing path)
  | none =>
      match files.startProgram "yosys" with
      | .ok () => .ok "yosys"
      | .error _ => .error .toolNotFound

/-- The comment line of a script file. -/
def scriptHeader (configuration : Configuration) (range : StageRange) : String :=
  "generated by qlsynth-driver " ++ version ++ "; family: " ++ configuration.family.name ++
    " run: " ++ range.text

/-- Carry out a synthesis command: list the stages, write them to a script file, or run them. -/
def runSynth {τ : Type} (surroundings : Surroundings τ) (toolchain : Option Toolchain)
    (request : SynthRequest) : Outcome τ :=
  let files := surroundings.files
  let fail (files : Files) (process : Option τ) (failure : SynthFailure) : Outcome τ :=
    { exitCode := 1
      stderr := failure.report.text surroundings.colored
      files := files
      process := process }
  let range := rangeOf request
  match Configuration.resolve (optionsOf request toolchain) with
  | .error problem => fail files none (.synthesis problem)
  | .ok configuration =>
      match Executor.select (Script.build configuration) range with
      | .error problem => fail files none (.synthesis problem)
      | .ok executor =>
          match configuration.mode, request.scriptFile with
          | .explain, _ =>
              match executor.explain with
              | (_, .error problem) => fail files none (.synthesis problem)
              | (explained, .ok ()) => { stdout := explained.transcript.text, files := files }
          | .execute, some path =>
              let run := executor.run ScriptFile.backend { inputs := request.inputs } ()
              match run.result with
              | .error problem => fail files none (.synthesis problem)
              | .ok () =>
                  let text := run.design.text (scriptHeader configuration range)
                  match writeScript surroundings path text with
                  | (files, .error failure) => fail files none failure
                  | (files, .ok ()) => { files := files }
          | .execute, none =>
              match toolPath files toolchain with
              | .error failure => fail files none failure
              | .ok path =>
                  match files.startProgram path with
                  | .error problem => fail files none (.toolNotStarted path problem)
                  | .ok () =>
                      let saved := request.checkpoint.any files.has
                      match converse surroundings.tool (Session.start surroundings.started)
                        executor request.inputs request.checkpoint saved with
                      | (session, .error failure) => fail files (some session.process) failure
                      | (session, .ok ()) =>
                          { files := files, process := some session.process }

/-- The settings file to read: the one that is named, or the default one if it exists. -/
def toolchainFile (files : Files) (named : Option String) : Option String :=
  match named with
  | some path => some path
  | none => if files.has Toolchain.defaultFile then some Toolchain.defaultFile else none

/-- The settings of the installation, if there is a file of them. -/
def loadToolchain {τ : Type} (surroundings : Surroundings τ) (named : Option String) :
    Except Report (Option Toolchain) :=
  match toolchainFile surroundings.files named with
  | none => .ok none
  | some path =>
      if !surroundings.files.has path then
        .error
          { message := "toolchain toml file does not exist"
            details :=
              [("path", path), ("working directory", surroundings.workingDirectory)] }
      else
        match surroundings.files.readText path with
        | .error problem =>
            .error
              { message := "could not read toolchain toml file"
                details := [("path", path), ("error", problem.message)] }
        | .ok text =>
            match Toolchain.parse text with
            | some toolchain => .ok (some toolchain)
            | none =>
                .error
                  { message := "could not parse toolchain toml file"
                    details :=
                      [("path", path), ("error", "not a TOML document with toolchain settings")] }

/-- A row of the table of families. -/
def familyRow (name dsp bram adder shift : String) : String :=
  Text.joined " "
    [padded 12 name, padded 4 dsp, padded 5 bram, padded 6 adder, padded 9 shift]

/-- The table of families and their capabilities. -/
def familyTable : String :=
  let answer (capable : Bool) : String := if capable then "yes" else "no"
  Text.lines
    (familyRow "family" "dsp" "bram" "adder" "shregmap" ::
      Family.all.map fun family =>
        familyRow family.name (answer family.hasDsp) (answer family.hasBram)
          (answer family.hasAdderMap)
          (match family.shiftRegisterBounds with
            | some bounds => Text.decimal bounds.least ++ ".." ++ Text.decimal bounds.greatest
            | none => "-"))

/-- What is printed when help is asked for. -/
def usage : String :=
  Text.lines
    ["Command line driver for staged QuickLogic synthesis", "",
      "Usage: qlsynth-driver [--toolchain TOOLCHAIN] [version|synth|stages|families]"]

/-- Run the program. -/
def run {τ : Type} (surroundings : Surroundings τ) (arguments : List String) : Outcome τ :=
  let files := surroundings.files
  match Reading.ofArguments arguments with
  | .rejected => { exitCode := 2, files := files }
  | .showVersion => { stdout := "qlsynth-driver " ++ version ++ "\n", files := files }
  | .showHelp => { stdout := usage, files := files }
  | .request named request =>
      match loadToolchain surroundings named with
      | .error report =>
          { exitCode := 1, stderr := report.text surroundings.colored, files := files }
      | .ok toolchain =>
          match request with
          | .version => { stdout := version ++ "\n", files := files }
          | .stages => { stdout := Text.lines Flow.stageLabels, files := files }
          | .families => { stdout := familyTable, files := files }
          | .synth request => runSynth surroundings toolchain request
          | .nothing =>
              let report : Report := { message := "No valid subcommand provided." }
              { exitCode := 1, stderr := report.text surroundings.colored, files := files }

end StagedSynthesis.CommandLine
