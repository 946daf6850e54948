import StagedSynthesis.CommandLine
import StagedSynthesis.Proofs.Endings
import StagedSynthesis.Proofs.Session.Sending

/-!
# The conversation of a synthesis command

What a synthesis command says to the tool, as rules. A conversation has four parts: a design is
loaded (`Loads`), the script is run on it (`RunsScript`), the design is saved (`Saves`), and the
tool is told to exit (`Leaves`). A failure to load ends the conversation, but a failure to run does
not keep the design from being saved. `Conversation` puts the parts together, and the main theorem,
`synthesis_conversation`, says that a synthesis command that starts the tool follows these rules
whatever the tool does.
-/

namespace StagedSynthesis

variable {τ : Type}

/-- The commands of some steps in order. -/
def commandsOf (steps : List Step) : List String :=
  (invocationsOf steps).map Invocation.command

/-- The commands of steps one after the other are those of each. -/
theorem commands_of_append (first second : List Step) :
    commandsOf (first ++ second) = commandsOf first ++ commandsOf second := by
  simp [commandsOf]

namespace Session

/-- The command that reads a design that was saved before. -/
def restoreCommand (path : String) : String :=
  Text.commandLine "read_rtlil" [Text.fileArgument path]

/-- The command that saves the design. -/
def saveCommand (path : String) : String :=
  Text.commandLine "write_rtlil" [Text.fileArgument path]

/-! ## Loading -/

/-- How a design is loaded. It is restored from the checkpoint if one is given, there are no inputs
and the checkpoint exists. Otherwise the inputs are read, up to and including the first that fails.
-/
inductive Loads (tool : Tool τ) (session : Session τ) :
    List String → (checkpoint : Option String) → (existing : Bool) → (commands : List String) →
      Session τ → Except SessionProblem Unit → Prop
  | restored {path : String} {after : Session τ}
      (hsends : Sends tool session [restoreCommand path] [restoreCommand path] after (.ok ())) :
      Loads tool session [] (some path) true [restoreCommand path] { after with loaded := true }
        (.ok ())
  | notRestored {path cause : String} {after : Session τ}
      (hsends : Sends tool session [restoreCommand path] [restoreCommand path] after
        (.error cause)) :
      Loads tool session [] (some path) true [restoreCommand path] after
        (.error (.readingCheckpoint path cause))
  | read {inputs : List String} {checkpoint : Option String} {existing : Bool} {after : Session τ}
      (hsource : inputs ≠ [] ∨ checkpoint = none ∨ existing = false)
      (hsends : Sends tool session (inputs.map readCommand) (inputs.map readCommand) after
        (.ok ())) :
      Loads tool session inputs checkpoint existing (inputs.map readCommand)
        { after with loaded := !inputs.isEmpty } (.ok ())
  | notRead {earlier rest : List String} {input cause : String} {checkpoint : Option String}
      {existing : Bool} {after : Session τ}
      (hsends : Sends tool session ((earlier ++ input :: rest).map readCommand)
        ((earlier ++ [input]).map readCommand) after (.error cause)) :
      Loads tool session (earlier ++ input :: rest) checkpoint existing
        ((earlier ++ [input]).map readCommand) after (.error (.readingInput input cause))

/-- Load a design from the checkpoint or from the inputs. -/
def load (tool : Tool τ) (session : Session τ) (inputs : List String) (checkpoint : Option String)
    (existing : Bool) : Session τ × Except SessionProblem Unit :=
  match checkpoint with
  | some path =>
      if inputs.isEmpty && existing then session.readCheckpoint tool path
      else session.readInputs tool inputs
  | none => session.readInputs tool inputs

/-- Inputs are read one after the other, and the first that fails is named. -/
theorem sends_read_each (tool : Tool τ) (inputs : List String) {session : Session τ}
    (hintact : session.broken = none) :
    (∃ after, readEach tool inputs session = (after, .ok ()) ∧
        Sends tool session (inputs.map readCommand) (inputs.map readCommand) after (.ok ())) ∨
      ∃ earlier input rest cause after, inputs = earlier ++ input :: rest ∧
        readEach tool inputs session = (after, .error (.readingInput input cause)) ∧
        Sends tool session (inputs.map readCommand) ((earlier ++ [input]).map readCommand) after
          (.error cause) := by
  induction inputs generalizing session with
  | nil => exact .inl ⟨session, rfl, .done session⟩
  | cons input rest ih =>
      rcases hexecute : session.execute tool (readCommand input) with ⟨middle, _ | _⟩
      · next cause =>
          refine .inr ⟨[], input, rest, cause, middle, rfl, ?_, .failed _ hintact hexecute⟩
          simp only [readEach, hexecute]
      · have hmiddle := (intact_of_execute_ok hexecute).2
        rcases ih hmiddle with ⟨after, hread, hsends⟩ | hfails
        · refine .inl ⟨after, ?_, .next hexecute hsends⟩
          simp only [readEach, hexecute, hread]
        · obtain ⟨earlier, failing, others, cause, after, rfl, hread, hsends⟩ := hfails
          refine .inr ⟨input :: earlier, failing, others, cause, after, rfl, ?_,
            .next hexecute hsends⟩
          simp only [readEach, hexecute, hread]

/-- Without a checkpoint to use, a session loads its input files. -/
theorem loads_read_inputs (tool : Tool τ) {session : Session τ} (hintact : session.broken = none)
    {inputs : List String} {checkpoint : Option String} {existing : Bool}
    (hsource : inputs ≠ [] ∨ checkpoint = none ∨ existing = false) :
    ∃ commands, Loads tool session inputs checkpoint existing commands
      (session.readInputs tool inputs).1 (session.readInputs tool inputs).2 := by
  rcases sends_read_each tool inputs hintact with ⟨after, hread, hsends⟩ | hfails
  · simp only [readInputs, hread]
    exact ⟨_, .read hsource hsends⟩
  · obtain ⟨earlier, input, rest, cause, after, rfl, hread, hsends⟩ := hfails
    simp only [readInputs, hread]
    exact ⟨_, .notRead hsends⟩

/-- With a checkpoint and no input files, a session loads the checkpoint. -/
theorem loads_read_checkpoint (tool : Tool τ) {session : Session τ}
    (hintact : session.broken = none) (path : String) :
    Loads tool session [] (some path) true [restoreCommand path]
      (session.readCheckpoint tool path).1 (session.readCheckpoint tool path).2 := by
  rcases hexecute : session.execute tool (restoreCommand path) with ⟨after, _ | _⟩
  · rw [readCheckpoint, ← restoreCommand, hexecute]
    exact .notRestored (.failed [] hintact hexecute)
  · rw [readCheckpoint, ← restoreCommand, hexecute]
    exact .restored (.next hexecute (.done after))

/-- Loading follows the rules. -/
theorem loads_load (tool : Tool τ) {session : Session τ} (hintact : session.broken = none)
    (inputs : List String) (checkpoint : Option String) (existing : Bool) :
    ∃ commands, Loads tool session inputs checkpoint existing commands
      (session.load tool inputs checkpoint existing).1
      (session.load tool inputs checkpoint existing).2 := by
  cases checkpoint with
  | none => exact loads_read_inputs tool hintact (.inr (.inl rfl))
  | some path =>
      cases inputs with
      | cons input rest =>
          exact loads_read_inputs tool hintact (.inl (List.cons_ne_nil input rest))
      | nil =>
          cases existing with
          | true => exact ⟨_, loads_read_checkpoint tool hintact path⟩
          | false => exact loads_read_inputs tool hintact (.inr (.inr rfl))

/-- Loading sends its commands and leaves an intact session if it succeeds. -/
theorem Loads.sent {tool : Tool τ} {session after : Session τ} {inputs : List String}
    {checkpoint : Option String} {existing : Bool} {commands : List String}
    {result : Except SessionProblem Unit}
    (h : Loads tool session inputs checkpoint existing commands after result) :
    Sent tool session commands after := by
  cases h with
  | restored hsends => exact ⟨hsends.sent.heard, hsends.sent.count⟩
  | notRestored hsends => exact hsends.sent
  | read hsource hsends => exact ⟨hsends.sent.heard, hsends.sent.count⟩
  | notRead hsends => exact hsends.sent

/-! ## Running -/

/-- How a script is run. Nothing is sent unless the session is ready; otherwise the commands of the
selected stages are, up to and including the first that fails. -/
inductive RunsScript (tool : Tool τ) (executor : Executor) (ready : Session τ) :
    (commands : List String) → Session τ → Except Problem Unit → Prop
  | refused {reason : String} (hready : ready.checkReady = .error reason) :
      RunsScript tool executor ready [] ready (.error (.precondition reason))
  | completed {after : Session τ} (hready : ready.checkReady = .ok ())
      (hsends : Sends tool ready (commandsOf (stepsOf executor.selectedStages))
        (commandsOf (stepsOf executor.selectedStages)) after (.ok ())) :
      RunsScript tool executor ready (commandsOf (stepsOf executor.selectedStages)) after (.ok ())
  | aborted {after : Session τ} {cause : String} (hready : ready.checkReady = .ok ())
      (position : Position executor.selectedStages)
      (hsends : Sends tool ready (commandsOf (stepsOf executor.selectedStages))
        (commandsOf (position.earlier ++ [position.step])) after (.error cause)) :
      RunsScript tool executor ready (commandsOf (position.earlier ++ [position.step])) after
        (.error (.operationFailed position.stage.label position.invocation.command cause))

/-- Invocations that are all accepted are commands that are all sent. -/
theorem sends_of_accepts {tool : Tool τ} {invocations : List Invocation} {session : Session τ}
    (haccepts : (backend tool).Accepts invocations session ()) :
    Sends tool session (invocations.map Invocation.command) (invocations.map Invocation.command)
      ((backend tool).after invocations session ()).1 (.ok ()) := by
  induction invocations generalizing session with
  | nil => exact .done session
  | cons invocation rest ih =>
      obtain ⟨hresult, hrest⟩ := haccepts
      exact .next (Prod.ext rfl hresult) (ih hrest)

/-- The first invocation that is refused is the last command that is sent. -/
theorem sends_of_fails_at {tool : Tool τ} {stages : List Stage} {position : Position stages}
    {session : Session τ} {cause : String} (hintact : session.broken = none)
    (hfails : (backend tool).FailsAt position session () cause) :
    Sends tool session (commandsOf (stepsOf stages))
      (commandsOf (position.earlier ++ [position.step]))
      ((backend tool).after (invocationsOf (position.earlier ++ [position.step])) session ()).1
      (.error cause) := by
  have hearlier := sends_of_accepts hfails.accepts
  have hreached := hearlier.intact rfl hintact
  have hlast : Sends tool ((backend tool).after (invocationsOf position.earlier) session ()).1
      (commandsOf (position.step :: position.remaining)) [position.invocation.command]
      ((backend tool).replyAfter (invocationsOf position.earlier) position.invocation session
        ()).design (.error cause) :=
    .failed _ hreached (Prod.ext rfl hfails.refused)
  rw [position.steps_eq, commands_of_append, commands_of_append, invocations_of_append]
  have hafter := (backend tool).after_concat (invocationsOf position.earlier) position.invocation
    session ()
  refine (congrArg (fun left => Sends tool session _ _ left.1 _) hafter).mpr ?_
  exact hearlier.append rfl hlast

/-- A run of a fresh executor follows the rules. -/
theorem runs_script_run {executor : Executor} (hstate : executor.state = .pending)
    (hmode : executor.script.mode = .execute) (tool : Tool τ) (ready : Session τ) :
    ∃ commands,
      RunsScript tool executor ready commands (executor.run (backend tool) ready ()).design
        (executor.run (backend tool) ready ()).result := by
  cases hready : ready.checkReady with
  | error reason =>
      have hrefused : (backend tool).checkReady ready = .error reason := hready
      simp only [Executor.run, Executor.begin?, hstate, if_true, hmode, hrefused]
      exact ⟨[], .refused hready⟩
  | ok =>
      -- Only a session that is not broken is ready.
      have hintact : ready.broken = none := by
        rcases Option.eq_none_or_eq_some ready.broken with hintact | ⟨reason, hbroken⟩
        · exact hintact
        · simp [checkReady, hbroken] at hready
      rcases (backend tool).accepts_or_fails_at executor.selectedStages ready () with
        haccepts | ⟨position, cause, hfails⟩
      · obtain ⟨hcompleted, hhands⟩ := Executor.run_of_accepts hstate hmode hready haccepts
        have hsends := sends_of_accepts haccepts
        rw [← hhands.left] at hsends
        rw [hcompleted.result]
        exact ⟨_, .completed hready hsends⟩
      · obtain ⟨haborted, hhands⟩ := Executor.run_of_fails_at hstate hmode hready hfails
        have hsends := sends_of_fails_at hintact hfails
        rw [← hhands.left] at hsends
        rw [haborted.result]
        exact ⟨_, .aborted hready position hsends⟩

/-- Running a script sends exactly its commands. -/
theorem RunsScript.sent {tool : Tool τ} {executor : Executor} {ready after : Session τ}
    {commands : List String} {result : Except Problem Unit}
    (h : RunsScript tool executor ready commands after result) :
    Sent tool ready commands after := by
  cases h with
  | refused hready => exact .nothing tool ready
  | completed hready hsends => exact hsends.sent
  | aborted hready position hsends => exact hsends.sent

/-! ## Saving and leaving -/

/-- How the design is saved: once if a checkpoint is given and the session is not broken, and not at
all otherwise. -/
inductive Saves (tool : Tool τ) (session : Session τ) :
    (checkpoint : Option String) → (commands : List String) → Session τ →
      Except SessionProblem Unit → Prop
  | nowhere : Saves tool session none [] session (.ok ())
  | broken {path reason : String} (hbroken : session.broken = some reason) :
      Saves tool session (some path) [] session (.error (.writingCheckpoint path reason))
  | saved {path : String} {after : Session τ} (hintact : session.broken = none)
      (hsaves : session.execute tool (saveCommand path) = (after, .ok ())) :
      Saves tool session (some path) [saveCommand path] after (.ok ())
  | unsaved {path cause : String} {after : Session τ} (hintact : session.broken = none)
      (hfails : session.execute tool (saveCommand path) = (after, .error cause)) :
      Saves tool session (some path) [saveCommand path] after
        (.error (.writingCheckpoint path cause))

/-- Save the design if there is a checkpoint to save it to. -/
def save (tool : Tool τ) (session : Session τ) (checkpoint : Option String) :
    Session τ × Except SessionProblem Unit :=
  match checkpoint with
  | some path => session.writeCheckpoint tool path
  | none => (session, .ok ())

/-- Saving follows the rules. -/
theorem saves_save (tool : Tool τ) (session : Session τ) (checkpoint : Option String) :
    ∃ commands, Saves tool session checkpoint commands (session.save tool checkpoint).1
      (session.save tool checkpoint).2 := by
  cases checkpoint with
  | none => exact ⟨[], .nowhere⟩
  | some path =>
      show ∃ commands, Saves tool session (some path) commands (session.writeCheckpoint tool path).1
        (session.writeCheckpoint tool path).2
      rcases Option.eq_none_or_eq_some session.broken with hintact | ⟨reason, hbroken⟩
      · rcases hexecute : session.execute tool (saveCommand path) with ⟨after, _ | _⟩
        · rw [writeCheckpoint, ← saveCommand, hexecute]
          exact ⟨_, .unsaved hintact hexecute⟩
        · rw [writeCheckpoint, ← saveCommand, hexecute]
          exact ⟨_, .saved hintact hexecute⟩
      · simp only [writeCheckpoint, execute, hbroken]
        exact ⟨[], .broken hbroken⟩

/-- Saving sends exactly its commands. -/
theorem Saves.sent {tool : Tool τ} {session after : Session τ} {checkpoint : Option String}
    {commands : List String} {result : Except SessionProblem Unit}
    (h : Saves tool session checkpoint commands after result) :
    Sent tool session commands after := by
  cases h with
  | nowhere => exact .nothing tool session
  | broken hbroken => exact .nothing tool session
  | @saved path after hintact hsaves =>
      have hsent := sent_execute hintact tool (saveCommand path)
      rwa [hsaves] at hsent
  | @unsaved path cause after hintact hfails =>
      have hsent := sent_execute hintact tool (saveCommand path)
      rwa [hfails] at hsent

/-- How a session ends. The tool is told to exit if the session is not broken, and only then its
exit status counts. -/
inductive Leaves (tool : Tool τ) (session : Session τ) :
    (farewell : List String) → Except SessionProblem Unit → Prop
  | broken {reason : String} (hbroken : session.broken = some reason) :
      Leaves tool session [] (.ok ())
  | succeeded (hintact : session.broken = none)
      (hstatus : tool.exitStatus (tool.offer session.heard "exit\n").1 = 0) :
      Leaves tool session ["exit\n"] (.ok ())
  | failed {status : Nat} (hintact : session.broken = none)
      (hstatus : tool.exitStatus (tool.offer session.heard "exit\n").1 = status)
      (hfailed : status ≠ 0) :
      Leaves tool session ["exit\n"] (.error (.exitStatus status))

/-- A session that is not broken tells the tool to exit, and the exit status of the tool decides. -/
theorem finish_of_intact {session : Session τ} (hintact : session.broken = none) (tool : Tool τ) :
    ∃ closed : Session τ, closed.heard = tool.offer session.heard "exit\n" ∧
      session.finish tool =
        (closed, if tool.exitStatus closed.process = 0 then .ok ()
          else .error (.exitStatus (tool.exitStatus closed.process))) := by
  cases hreceive : tool.receive session.process "exit\n" with
  | error cause =>
      refine ⟨session, ?_, ?_⟩
      · simp only [Tool.offer, heard, hreceive]
      · simp only [finish, hintact, write, hreceive, Except.map]
  | ok answer =>
      refine ⟨{ session with
        process := answer.1
        unread := session.unread ++ answer.2
        written := session.written ++ ["exit\n"] }, ?_, ?_⟩
      · simp only [Tool.offer, heard, hreceive]
      · simp only [finish, hintact, write, hreceive, Except.map]

/-- Finishing follows the rules. -/
theorem leaves_finish (tool : Tool τ) (session : Session τ) :
    ∃ farewell, Leaves tool session farewell (session.finish tool).2 ∧
      (session.finish tool).1.heard = tool.offerAll session.heard farewell := by
  rcases Option.eq_none_or_eq_some session.broken with hintact | ⟨reason, hbroken⟩
  · obtain ⟨closed, hclosed, hfinish⟩ := finish_of_intact hintact tool
    have hprocess : closed.process = (tool.offer session.heard "exit\n").1 :=
      congrArg Prod.fst hclosed
    rw [hfinish]
    refine ⟨["exit\n"], ?_, hclosed⟩
    by_cases hstatus : tool.exitStatus closed.process = 0
    · rw [if_pos hstatus]
      exact .succeeded hintact (hprocess ▸ hstatus)
    · rw [if_neg hstatus]
      exact .failed hintact (hprocess ▸ rfl) hstatus
  · simp only [finish, hbroken]
    exact ⟨[], .broken hbroken, rfl⟩

end Session

namespace CommandLine

open Session

/-! ## The whole conversation -/

/-- The first failure of a run, of saving and of leaving, in this order. -/
def firstFailure (run : Except Problem Unit) (saving leaving : Except SessionProblem Unit) :
    Except SynthFailure Unit :=
  match run, saving, leaving with
  | .error problem, _, _ => .error (.synthesis problem)
  | .ok (), .error problem, _ => .error (.session problem)
  | .ok (), .ok (), .error problem => .error (.session problem)
  | .ok (), .ok (), .ok () => .ok ()

/-- How a conversation goes: the texts that are offered to the tool, in order, and how it ends.
After a failure to load nothing more is said. Otherwise the script is run, the design is saved, and
the tool is told to exit. -/
inductive Conversation (tool : Tool τ) (executor : Executor) (inputs : List String)
    (checkpoint : Option String) (existing : Bool) (session : Session τ) :
    (texts : List String) → Except SynthFailure Unit → Prop
  | unloaded {reads : List String} {after : Session τ} {problem : SessionProblem}
      (hloads : Loads tool session inputs checkpoint existing reads after (.error problem)) :
      Conversation tool executor inputs checkpoint existing session
        (requests session.count reads) (.error (.session problem))
  | loaded {reads runs saves farewell : List String} {ready ran saved : Session τ}
      {run : Except Problem Unit} {saving leaving : Except SessionProblem Unit}
      (hloads : Loads tool session inputs checkpoint existing reads ready (.ok ()))
      (hruns : RunsScript tool executor ready runs ran run)
      (hsaves : Saves tool ran checkpoint saves saved saving)
      (hleaves : Leaves tool saved farewell leaving) :
      Conversation tool executor inputs checkpoint existing session
        (requests session.count (reads ++ runs ++ saves) ++ farewell)
        (firstFailure run saving leaving)

/-- A talk is made of the four parts. -/
theorem converse_eq (tool : Tool τ) (session : Session τ) (executor : Executor)
    (inputs : List String) (checkpoint : Option String) (existing : Bool) :
    converse tool session executor inputs checkpoint existing =
      match session.load tool inputs checkpoint existing with
      | (after, .error problem) => (after, .error (.session problem))
      | (ready, .ok ()) =>
          let run := executor.run (backend tool) ready ()
          let saved := run.design.save tool checkpoint
          let left := saved.1.finish tool
          (left.1, firstFailure run.result saved.2 left.2) := by
  have hfailure (run : Except Problem Unit) (saving leaving : Except SessionProblem Unit) :
      (do run.mapError SynthFailure.synthesis
          saving.mapError SynthFailure.session
          leaving.mapError SynthFailure.session) = firstFailure run saving leaving := by
    cases run <;> cases saving <;> cases leaving <;> rfl
  rcases hload : session.load tool inputs checkpoint existing with ⟨ready, _ | _⟩
  · cases checkpoint <;> simp only [load] at hload <;> simp only [converse, hload]
  · cases checkpoint <;> simp only [load] at hload <;> simp only [converse, hload, hfailure, save]

/-- A talk with a tool follows the rules, and the tool hears what the rules say. -/
theorem conversation_converse {executor : Executor} (hstate : executor.state = .pending)
    (hmode : executor.script.mode = .execute) (tool : Tool τ) {session : Session τ}
    (hintact : session.broken = none) (inputs : List String) (checkpoint : Option String)
    (existing : Bool) :
    ∃ texts,
      Conversation tool executor inputs checkpoint existing session texts
        (converse tool session executor inputs checkpoint existing).2 ∧
      (converse tool session executor inputs checkpoint existing).1.heard =
        tool.offerAll session.heard texts := by
  rw [converse_eq]
  obtain ⟨reads, hloads⟩ := loads_load tool hintact inputs checkpoint existing
  rcases hload : session.load tool inputs checkpoint existing with ⟨ready, _ | _⟩
  · rw [hload] at hloads
    exact ⟨_, .unloaded hloads, hloads.sent.heard⟩
  · rw [hload] at hloads
    obtain ⟨runs, hruns⟩ := runs_script_run hstate hmode tool ready
    obtain ⟨saves, hsaves⟩ :=
      saves_save tool (executor.run (backend tool) ready ()).design checkpoint
    obtain ⟨farewell, hleaves, hheard⟩ := leaves_finish tool
      ((executor.run (backend tool) ready ()).design.save tool checkpoint).1
    -- The numbers of the commands run on from one part to the next.
    have hsent := (hloads.sent.append hruns.sent).append hsaves.sent
    refine ⟨_, .loaded hloads hruns hsaves hleaves, ?_⟩
    rw [Tool.offer_all_append, ← hsent.heard]
    exact hheard

/-! ## Synthesis commands -/

/-- Options and a range make an executor that is to be run. -/
structure Prepares (options : Options) (range : StageRange) (configuration : Configuration)
    (executor : Executor) : Prop where
  resolved : Configuration.resolve options = .ok configuration
  executes : configuration.mode = .execute
  selected : Executor.select (Script.build configuration) range = .ok executor

/-- A prepared executor has not run, and its script is for executing. -/
theorem Prepares.fresh {options : Options} {range : StageRange} {configuration : Configuration}
    {executor : Executor} (h : Prepares options range configuration executor) :
    executor.state = .pending ∧ executor.script.mode = .execute := by
  obtain ⟨hscript, hstate⟩ := Executor.fresh_of_select h.selected
  rw [hscript]
  exact ⟨hstate, h.executes⟩

/-- What a synthesis command leaves behind once it has talked to the tool. -/
def reported (surroundings : Surroundings τ) (process : τ) :
    Except SynthFailure Unit → Outcome τ
  | .error failure =>
      { exitCode := 1
        stderr := failure.report.text surroundings.colored
        files := surroundings.files
        process := some process }
  | .ok () => { files := surroundings.files, process := some process }

variable {surroundings : Surroundings τ} {toolchain : Option Toolchain} {request : SynthRequest}
  {configuration : Configuration} {executor : Executor} {path : String}

/-- A synthesis command that starts the tool talks to it and reports how the talk ended. -/
theorem run_synth_of_started
    (hprepares : Prepares (optionsOf request toolchain) (rangeOf request) configuration executor)
    (hscript : request.scriptFile = none)
    (hpath : toolPath surroundings.files toolchain = .ok path)
    (hstarts : surroundings.files.startProgram path = .ok ()) :
    let talk := converse surroundings.tool (Session.start surroundings.started) executor
      request.inputs request.checkpoint (request.checkpoint.any surroundings.files.has)
    runSynth surroundings toolchain request = reported surroundings talk.1.process talk.2 := by
  simp only [runSynth, hprepares.resolved, hprepares.selected, hprepares.executes, hscript, hpath,
    hstarts]
  rcases converse surroundings.tool (Session.start surroundings.started) executor request.inputs
    request.checkpoint (request.checkpoint.any surroundings.files.has) with ⟨session, _ | _⟩ <;> rfl

/-- A synthesis command that starts the tool holds a talk that follows the rules of a conversation,
whatever the tool does: the tool hears the texts of the conversation, and the command reports how
the conversation ended. -/
theorem synthesis_conversation
    (hprepares : Prepares (optionsOf request toolchain) (rangeOf request) configuration executor)
    (hscript : request.scriptFile = none)
    (hpath : toolPath surroundings.files toolchain = .ok path)
    (hstarts : surroundings.files.startProgram path = .ok ()) :
    let existing := request.checkpoint.any surroundings.files.has
    let talk := converse surroundings.tool (start surroundings.started) executor request.inputs
      request.checkpoint existing
    ∃ texts,
      Conversation surroundings.tool executor request.inputs request.checkpoint existing
        (start surroundings.started) texts talk.2 ∧
      talk.1.heard = surroundings.tool.offerAll (surroundings.started, []) texts ∧
      runSynth surroundings toolchain request = reported surroundings talk.1.process talk.2 := by
  intro existing talk
  obtain ⟨hstate, hmode⟩ := hprepares.fresh
  have hintact : (start surroundings.started).broken = none := rfl
  obtain ⟨texts, hconversation, hheard⟩ := conversation_converse hstate hmode surroundings.tool
    hintact request.inputs request.checkpoint existing
  exact ⟨texts, hconversation, hheard, run_synth_of_started hprepares hscript hpath hstarts⟩

/-- A tool that answers every text with the next of some prepared outputs, remembers the texts, and
ends with a given status. -/
def remembering (status : Nat) : Tool (List (List UInt8) × List String) where
  receive process text := .ok ((process.1.tail, process.2 ++ [text]), process.1.headD [])
  exitStatus _ := status

/-- Surroundings with no file but the tool, which prints some outputs in answer to texts and ends
with a given status. -/
def attended (status : Nat) (answers : List (List UInt8)) :
    Surroundings (List (List UInt8) × List String) where
  files := { entries := [(["yosys"], .program)] }
  workingDirectory := "/"
  temporaryName := "unfinished"
  colored := false
  tool := remembering status
  started := (answers, [])

/-- The third command of a stage fails, and the tool ends with a status of its own. The design is
saved all the same, and the failure of the run is the one that is reported. Where the run succeeds,
the first failure of the others is. -/
theorem synthesis_conversation_after_failure :
    let answers := [["qlsynth-ack-1"], ["qlsynth-ack-2"], ["qlsynth-ack-3"],
      ["ERROR: ", "qlsynth-ack-4"], ["qlsynth-ack-5"]].map output
    let surroundings := attended 3 answers
    let request : SynthRequest :=
      { range := some "check", inputs := ["top module.v"], checkpoint := some "saved.il" }
    let configuration := (optionsOf request none).configure .default
    let executor : Executor := { script := Script.build configuration, start := 10, stop := 10 }
    let talk := converse surroundings.tool (start surroundings.started) executor request.inputs
      request.checkpoint false
    let acknowledged := [["qlsynth-ack-1"], ["qlsynth-ack-2"], ["qlsynth-ack-3"],
      ["qlsynth-ack-4"], ["qlsynth-ack-5"]].map output
    let failing (status : Nat) (answers : List (List UInt8)) : String :=
      (runSynth (attended status answers) none request).stderr
    Prepares (optionsOf request none) (rangeOf request) configuration executor ∧
      toolPath surroundings.files none = .ok "yosys" ∧
      surroundings.files.startProgram "yosys" = .ok () ∧
      (∃ texts,
        Conversation surroundings.tool executor request.inputs request.checkpoint false
          (start surroundings.started) texts talk.2 ∧
        (surroundings.tool.offerAll (surroundings.started, []) texts).2 =
          ["read_verilog \"top module.v\"\nlog qlsynth-ack-1\n",
            "autoname\nlog qlsynth-ack-2\n", "hierarchy -check\nlog qlsynth-ack-3\n",
            "stat\nlog qlsynth-ack-4\n", "write_rtlil saved.il\nlog qlsynth-ack-5\n",
            "exit\n"]) ∧
      failing 3 answers =
        "qlsynth-driver: synth: operation failed in stage 'check': `stat`: \n" ++
          "  stage:     check\n  operation: stat\n" ∧
      failing 3 [bytesOf "ERROR: no such file"] =
        "qlsynth-driver: synth: reading input top module.v: no such file\n" ∧
      failing 3 (acknowledged ++ [output ["ERROR:", "qlsynth-ack-6"]]) =
        "qlsynth-driver: synth: writing checkpoint saved.il: \n" ∧
      failing 3 (acknowledged ++ [output ["qlsynth-ack-6"]]) =
        "qlsynth-driver: synth: yosys exited with status exit status: 3\n" := by
  intro answers surroundings request configuration executor talk acknowledged failing
  have hprepares : Prepares (optionsOf request none) (rangeOf request) configuration executor :=
    ⟨rfl, rfl, rfl⟩
  have hstarts : surroundings.files.startProgram "yosys" = .ok () := rfl
  have hpath : toolPath surroundings.files none = .ok "yosys" := rfl
  have hmissing : request.checkpoint.any surroundings.files.has = false := by decide +kernel
  obtain ⟨texts, hconversation, hheard, -⟩ := synthesis_conversation hprepares rfl hpath hstarts
  rw [hmissing] at hconversation hheard
  refine ⟨hprepares, hpath, hstarts, ⟨texts, hconversation, ?_⟩, by decide +kernel⟩
  rw [← hheard]
  decide +kernel

end CommandLine

end StagedSynthesis
