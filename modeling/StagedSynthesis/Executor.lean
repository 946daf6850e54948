import StagedSynthesis.Flow
import StagedSynthesis.StageRange
import StagedSynthesis.Transcript

/-!
# Running a script

An executor makes one pass over the selected stages of a script. It either lists their invocations
or hands them, strictly in order, to a back end; the first invocation that fails ends the run where
it stands. The range is resolved before anything runs, and an executor runs only once.
-/

namespace StagedSynthesis

/-- What a back end answers to one invocation: the design and the invoker afterwards, whether the
operation succeeded or why it failed, and what was told to the log. -/
structure Reply (δ ι : Type) where
  design : δ
  invoker : ι
  result : Except String Unit
  events : List Event := []

/-- A way to carry out invocations on designs of type `δ` by invokers with states of type `ι`. -/
structure Backend (δ ι : Type) where
  /-- Whether a script can start from the design, or why not. -/
  checkReady : δ → Except String Unit
  /-- Carry out one invocation. -/
  invoke : δ → ι → Invocation → Reply δ ι

/-- How far an executor has come. -/
inductive RunState where
  | pending
  | running
  | completed
  | aborted
  deriving DecidableEq, Repr

/-- The name of the state. -/
def RunState.name : RunState → String
  | .pending => "Pending"
  | .running => "Running"
  | .completed => "Completed"
  | .aborted => "Aborted"

/-- A script, the positions of the first and last stage to run, and how far the run has come. -/
structure Executor where
  script : Script
  start : Nat
  stop : Nat
  state : RunState := .pending
  transcript : Transcript := {}

/-- What a pass over invocations or stages left behind. The pass ended early if there is a
problem. -/
structure Pass (δ ι : Type) where
  design : δ
  invoker : ι
  problem : Option Problem := none
  transcript : Transcript := {}
  events : List Event := []

/-- What running an executor left behind. -/
structure Run (δ ι : Type) where
  executor : Executor
  design : δ
  invoker : ι
  result : Except Problem Unit
  events : List Event := []

namespace Executor

/-- An executor for the stages that a range selects from a script. -/
def select (script : Script) (range : StageRange) : Except Problem Executor :=
  (range.resolve script.labels).map fun span =>
    { script := script, start := span.1, stop := span.2 }

/-- The selected stages in order. -/
def selectedStages (executor : Executor) : List Stage :=
  (executor.script.stages.take (executor.stop + 1)).drop executor.start

/-- The transcript that lists every invocation of some stages. -/
def listing (stages : List Stage) : Transcript where
  labels := stages.map Stage.label
  entries := stages.flatMap fun stage => stage.invocations.map (Entry.record stage.label .listed)

/-- Why a call is refused: the executor has been used before. -/
def alreadyRan (executor : Executor) : Problem :=
  .precondition ("script executor already ran (state: " ++ executor.state.name ++ ")")

/-- The executor as it is while it runs, or why it must not run. -/
def begin? (executor : Executor) : Except Problem Executor :=
  if executor.state = .pending then .ok { executor with state := .running }
  else .error executor.alreadyRan

/-- List the selected invocations without invoking any, whatever the mode of the script. -/
def explain (executor : Executor) : Executor × Except Problem Unit :=
  match executor.begin? with
  | .error problem => (executor, .error problem)
  | .ok begun =>
      ({ begun with state := .completed, transcript := listing begun.selectedStages }, .ok ())

/-- Hand the invocations of a stage to the back end in order, up to the first that fails. -/
def runInvocations {δ ι : Type} (backend : Backend δ ι) (label : String) :
    List Invocation → δ → ι → Pass δ ι
  | [], design, invoker => { design := design, invoker := invoker }
  | invocation :: rest, design, invoker =>
      let reply := backend.invoke design invoker invocation
      let events := .invoking invocation.command :: reply.events
      match reply.result with
      | .error cause =>
          { design := reply.design
            invoker := reply.invoker
            problem := some (.operationFailed label invocation.command cause)
            transcript := { entries := [Entry.record label .failed invocation] }
            events := events }
      | .ok () =>
          let remaining := runInvocations backend label rest reply.design reply.invoker
          { remaining with
            transcript :=
              { remaining.transcript with
                entries := Entry.record label .invoked invocation :: remaining.transcript.entries }
            events := events ++ remaining.events }

/-- Run stages in order, up to the first invocation that fails. -/
def runStages {δ ι : Type} (backend : Backend δ ι) : List Stage → δ → ι → Pass δ ι
  | [], design, invoker => { design := design, invoker := invoker }
  | stage :: rest, design, invoker =>
      let pass := runInvocations backend stage.label stage.invocations design invoker
      let events := .stageStarted stage.label :: pass.events
      match pass.problem with
      | some _ =>
          { pass with
            transcript := { pass.transcript with labels := [stage.label] }
            events := events }
      | none =>
          let remaining := runStages backend rest pass.design pass.invoker
          { remaining with
            transcript :=
              { labels := stage.label :: remaining.transcript.labels
                entries := pass.transcript.entries ++ remaining.transcript.entries }
            events := events ++ remaining.events }

/-- The event with which a run begins. -/
def startEvent (executor : Executor) : Event :=
  let labels := executor.selectedStages.map Stage.label
  .runStarted (labels.head?.getD "") (labels.getLast?.getD "") executor.script.mode

/-- Run the selected stages against a design. A script made for explaining is only listed, and a
design that is not ready is left alone. -/
def run {δ ι : Type} (executor : Executor) (backend : Backend δ ι) (design : δ) (invoker : ι) :
    Run δ ι :=
  match executor.begin? with
  | .error problem =>
      { executor := executor, design := design, invoker := invoker, result := .error problem }
  | .ok begun =>
      match begun.script.mode with
      | .explain =>
          { executor :=
              { begun with state := .completed, transcript := listing begun.selectedStages }
            design := design
            invoker := invoker
            result := .ok ()
            events := [begun.startEvent] }
      | .execute =>
          match backend.checkReady design with
          | .error reason =>
              { executor := { begun with state := .aborted }
                design := design
                invoker := invoker
                result := .error (.precondition reason)
                events := [begun.startEvent] }
          | .ok () =>
              let pass := runStages backend begun.selectedStages design invoker
              { executor :=
                  { begun with
                    state := if pass.problem.isSome then .aborted else .completed
                    transcript := pass.transcript }
                design := pass.design
                invoker := pass.invoker
                result := match pass.problem with
                  | some problem => .error problem
                  | none => .ok ()
                events := begun.startEvent :: pass.events }

end Executor

/-- What a synthesis call left behind: the transcript or the problem, the design and the invoker,
and the events. -/
structure Synthesis (δ ι : Type) where
  result : Except Problem Transcript
  design : δ
  invoker : ι
  events : List Event

/-- Resolve the options, build the script, select the stages and run them. -/
def synthesize {δ ι : Type} (options : Options) (range : StageRange) (backend : Backend δ ι)
    (design : δ) (invoker : ι) : Synthesis δ ι :=
  let events := Configuration.resolveEvents options
  match Configuration.resolve options with
  | .error problem => ⟨.error problem, design, invoker, events⟩
  | .ok configuration =>
      match Executor.select (Script.build configuration) range with
      | .error problem => ⟨.error problem, design, invoker, events⟩
      | .ok executor =>
          let run := executor.run backend design invoker
          ⟨run.result.map fun _ => run.executor.transcript, run.design, run.invoker,
            events ++ run.events⟩

end StagedSynthesis
