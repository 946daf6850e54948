import StagedSynthesis.Proofs.Conversation
import StagedSynthesis.Proofs.Session.Attribution

/-!
# What a checkpoint is saved from

A synthesis command with a checkpoint saves the design whether or not its run succeeded.
`SavesAfterRead` says of the commands of a session that none of them saves the design before one
that reads a design has succeeded. The main theorem, `checkpoint_saved_after_read_iff`, says of
every command line when this is so: exactly if there was something to read. Without inputs and
without an existing checkpoint, the run is refused, and the design that was never read is saved all
the same.
-/

namespace StagedSynthesis

variable {τ : Type}

/-! ## Reading and saving -/

/-- A command begins as its operation does. -/
theorem Text.head_command_line {name : String} {first : Char}
    (hname : name.toList.head? = some first) (arguments : List String) :
    (commandLine name arguments).toList.head? = some first := by
  have happend : ∃ tail, commandLine name arguments = name ++ tail := by
    cases arguments with
    | nil => exact ⟨"", String.append_empty.symm⟩
    | cons argument rest =>
        refine ⟨" " ++ joined " " (argument :: rest), ?_⟩
        rw [commandLine, joined_cons_cons, String.append_assoc]
  obtain ⟨tail, htail⟩ := happend
  rw [htail, String.toList_append, List.head?_append, hname]
  rfl

namespace Session

/-- A command that reads a source file or a saved design. -/
def IsRead (command : String) : Prop :=
  ∃ arguments, command = Text.commandLine "read_verilog" arguments ∨
    command = Text.commandLine "read_rtlil" arguments

/-- The command for an input file reads a design. -/
theorem is_read_read_command (input : String) : IsRead (readCommand input) :=
  ⟨_, .inl rfl⟩

/-- The command that restores a checkpoint reads a design. -/
theorem is_read_restore_command (path : String) : IsRead (restoreCommand path) :=
  ⟨_, .inr rfl⟩

/-- No command both reads and saves a design. -/
theorem IsRead.ne_save_command {command : String} (h : IsRead command) (path : String) :
    command ≠ saveCommand path := by
  intro hsame
  have hreads : command.toList.head? = some 'r' := by
    obtain ⟨arguments, rfl | rfl⟩ := h
    · exact Text.head_command_line (by decide) arguments
    · exact Text.head_command_line (by decide) arguments
  have hsaves : (saveCommand path).toList.head? = some 'w' := Text.head_command_line (by decide) _
  rw [hsame, hsaves] at hreads
  exact absurd hreads (by decide)

/-- Commands that a new session executes in turn, each with what came of it. -/
def dealings (tool : Tool τ) (process : τ) (commands : List String) :
    List (String × Except String Unit) :=
  commands.zip (executeAll tool commands (start process)).2

/-- A session saves the design to a path only after a command that reads a design has succeeded. -/
def SavesAfterRead (tool : Tool τ) (process : τ) (commands : List String) (path : String) : Prop :=
  ∀ before verdict after,
    dealings tool process commands = before ++ (saveCommand path, verdict) :: after →
    ∃ command, IsRead command ∧ (command, .ok ()) ∈ before

section

variable {tool : Tool τ} {process : τ}

/-- If the first command reads a design and succeeds, everything saved is saved after that. -/
theorem saves_after_read_of_read_first {first : String} (hread : IsRead first)
    (hok : ((start process).execute tool first).2 = .ok ()) (rest : List String) (path : String) :
    SavesAfterRead tool process (first :: rest) path := by
  intro before verdict after hdealings
  simp only [dealings, executeAll, hok, List.zip_cons_cons] at hdealings
  cases before with
  | nil =>
      have hfirst := (Prod.ext_iff.mp (List.cons.inj hdealings).1).1
      exact absurd hfirst (hread.ne_save_command path)
  | cons head others =>
      rw [List.cons_append] at hdealings
      exact ⟨first, hread, (List.cons.inj hdealings).1 ▸ List.mem_cons_self⟩

/-- Commands that only read save nothing. -/
theorem saves_after_read_of_only_reads {commands : List String}
    (hreads : ∀ command ∈ commands, IsRead command) (path : String) :
    SavesAfterRead tool process commands path := by
  intro before verdict after hdealings
  have hmem : (saveCommand path, verdict) ∈ dealings tool process commands := by
    simp [hdealings]
  exact absurd rfl ((hreads _ (List.of_mem_zip hmem).1).ne_save_command path)

/-- A session that starts with saving saves before anything is read. -/
theorem not_saves_after_read_of_save_first (path : String) (rest : List String) :
    ¬ SavesAfterRead tool process (saveCommand path :: rest) path := by
  intro h
  obtain ⟨command, -, hmem⟩ := h [] _ _ rfl
  exact List.not_mem_nil hmem

end

/-! ## Loading -/

/-- If all of a plan succeeds, so does its first command. -/
theorem Sends.first_succeeds {tool : Tool τ} {session after : Session τ} {first : String}
    {plan commands : List String} {result : Except String Unit}
    (h : Sends tool session plan (first :: commands) after result) (hok : result = .ok ()) :
    (session.execute tool first).2 = .ok () := by
  cases h with
  | failed => cases hok
  | next hsucceeds hrest => exact congrArg Prod.snd hsucceeds

namespace Loads

variable {tool : Tool τ} {session after : Session τ} {inputs reads : List String}
  {checkpoint : Option String} {existing : Bool} {result : Except SessionProblem Unit}

/-- Only commands that read are sent to load a design. -/
theorem only_reads (h : Loads tool session inputs checkpoint existing reads after result) :
    ∀ command ∈ reads, IsRead command := by
  cases h with
  | restored | notRestored =>
      intro command hcommand
      rw [List.mem_singleton] at hcommand
      exact hcommand ▸ is_read_restore_command _
  | read | notRead =>
      intro command hcommand
      obtain ⟨input, -, rfl⟩ := List.mem_map.mp hcommand
      exact is_read_read_command input

/-- Where there is something to read and loading succeeds, the first command did. -/
theorem first_succeeds (h : Loads tool session inputs checkpoint existing reads after (.ok ()))
    (hsource : inputs ≠ [] ∨ checkpoint ≠ none ∧ existing = true) :
    ∃ first rest, reads = first :: rest ∧ IsRead first ∧
      (session.execute tool first).2 = .ok () := by
  cases h with
  | restored hsends => exact ⟨_, _, rfl, is_read_restore_command _, hsends.first_succeeds rfl⟩
  | read hunsaved hsends =>
      cases inputs with
      | nil =>
          rcases hsource with hempty | ⟨hgiven, hexisting⟩
          · exact absurd rfl hempty
          · simp [hgiven, hexisting] at hunsaved
      | cons input rest => exact ⟨_, _, rfl, is_read_read_command input, hsends.first_succeeds rfl⟩

/-- Where there is nothing to read, loading does nothing and leaves no design. -/
theorem of_nothing (h : Loads tool session [] checkpoint false reads after result) :
    reads = [] ∧ after = { session with loaded := false } ∧ result = .ok () := by
  generalize hinputs : ([] : List String) = inputs at h
  cases h with
  | read hsource hsends =>
      subst hinputs
      cases hsends
      exact ⟨rfl, rfl, rfl⟩
  | notRead hsends => simp at hinputs

end Loads

/-- Without anything to read, the run is refused and the session saves its design nevertheless. -/
theorem saves_of_nothing {tool : Tool τ} {executor : Executor} {process : τ} {path : String}
    {reads runs saves : List String} {ready ran saved : Session τ} {run : Except Problem Unit}
    {loading saving : Except SessionProblem Unit}
    (hloads : Loads tool (start process) [] (some path) false reads ready loading)
    (hruns : RunsScript tool executor ready runs ran run)
    (hsaves : Saves tool ran (some path) saves saved saving) :
    reads ++ runs ++ saves = [saveCommand path] ∧
      run = .error (.precondition "no input files or checkpoint were read") := by
  obtain ⟨rfl, rfl, -⟩ := hloads.of_nothing
  have hunready : (start process).checkReady =
      .error "no input files or checkpoint were read" := rfl
  cases hruns with
  | refused hready =>
      cases hunready.symm.trans hready
      cases hsaves with
      | broken hbroken => cases hbroken
      | saved | unsaved => exact ⟨rfl, rfl⟩
  | completed hready => cases hunready.symm.trans hready
  | aborted hready => cases hunready.symm.trans hready

end Session

namespace CommandLine

open Session

/-! ## Conversations -/

/-- In a conversation, the design is saved after it was read exactly if there is something to read.
Otherwise the run is refused, and nothing but the saving is asked of the tool before it is left. -/
theorem Conversation.saves_after_read_iff {tool : Tool τ} {executor : Executor}
    {inputs : List String} {checkpoint : Option String} {existing : Bool} {process : τ}
    {texts : List String} {result : Except SynthFailure Unit}
    (h : Conversation tool executor inputs checkpoint existing (start process) texts result) :
    ∃ commands farewell,
      texts = requests 0 commands ++ farewell ∧ (farewell = [] ∨ farewell = ["exit\n"]) ∧
      ∀ path, checkpoint = some path →
        (SavesAfterRead tool process commands path ↔ inputs ≠ [] ∨ existing = true) ∧
        (inputs = [] → existing = false →
          commands = [saveCommand path] ∧
          result =
            .error (.synthesis (.precondition "no input files or checkpoint were read"))) := by
  cases h with
  | @unloaded reads after problem hloads =>
      refine ⟨reads, [], (List.append_nil _).symm, .inl rfl, ?_⟩
      rintro path rfl
      -- Nothing fails to load where there is nothing to read.
      have hsource : inputs ≠ [] ∨ existing = true := by
        by_contra hnothing
        simp only [not_or, Classical.not_not, Bool.not_eq_true] at hnothing
        obtain ⟨rfl, rfl⟩ := hnothing
        cases hloads.of_nothing.2.2
      refine ⟨iff_of_true (saves_after_read_of_only_reads hloads.only_reads path) hsource, ?_⟩
      rintro rfl rfl
      simp at hsource
  | @loaded reads runs saves farewell _ _ _ _ _ _ hloads hruns hsaves hleaves =>
      refine ⟨reads ++ runs ++ saves, farewell, rfl, ?_, ?_⟩
      · cases hleaves with
        | broken => exact .inl rfl
        | succeeded | failed => exact .inr rfl
      rintro path rfl
      by_cases hsource : inputs ≠ [] ∨ existing = true
      · obtain ⟨first, rest, rfl, hread, hok⟩ :=
          hloads.first_succeeds (hsource.imp_right fun hexisting => ⟨by simp, hexisting⟩)
        refine ⟨iff_of_true (saves_after_read_of_read_first hread hok _ path) hsource, ?_⟩
        rintro rfl rfl
        simp at hsource
      · simp only [not_or, Classical.not_not, Bool.not_eq_true] at hsource
        obtain ⟨rfl, rfl⟩ := hsource
        obtain ⟨hcommands, rfl⟩ := saves_of_nothing hloads hruns hsaves
        rw [hcommands]
        exact ⟨iff_of_false (not_saves_after_read_of_save_first path []) (by simp),
          fun _ _ => ⟨rfl, rfl⟩⟩

/-! ## Command lines -/

/-- Behind the word for synthesis, the arguments are those of a synthesis request. -/
theorem read_arguments_synth {first : String} (hfirst : Argument.ofText first = .word "synth")
    (toolchain : Option String) (rest : List String) :
    readArguments toolchain (first :: rest) = readSynth toolchain {} rest := by
  rw [readArguments, hfirst]
  rfl

/-- A word among the arguments of the synthesis command is an input. -/
theorem read_synth_word {first input : String} (hfirst : Argument.ofText first = .word input)
    (toolchain : Option String) (request : SynthRequest) (rest : List String) :
    readSynth toolchain request (first :: rest) =
      readSynth toolchain (request.addInput input) rest := by
  rw [readSynth, hfirst]

/-- An option among the arguments of the synthesis command takes the next word. -/
theorem read_synth_option {first name value : String}
    (hfirst : Argument.ofText first = .long name none)
    (hname : SynthRequest.isSwitch name = false ∧ name ≠ "help")
    (hvalue : Argument.ofText value = .word value) {request next : SynthRequest}
    (hset : request.set? name value = some next) (toolchain : Option String) (rest : List String) :
    readSynth toolchain request (first :: value :: rest) = readSynth toolchain next rest := by
  have hfound : valueOf? none (value :: rest) = some (value, rest) := by
    simp only [valueOf?, hvalue]
  rw [readSynth, hfirst]
  simp only [hname.1, Bool.false_eq_true, if_false, hname.2, false_and]
  split
  · next hnone => cases hfound.symm.trans hnone
  · next hsome =>
      cases hfound.symm.trans hsome
      rw [hset]

/-- A command line makes the program talk to its tool: the request that it stands for, the texts
that are offered to the tool by the rules of a conversation, and the talk that is reported. -/
structure Talks (surroundings : Surroundings τ) (arguments : List String) (request : SynthRequest)
    (texts : List String) (talk : Session τ × Except SynthFailure Unit) : Prop where
  talked : ∃ named toolchain configuration executor,
    let existing := request.checkpoint.any surroundings.files.has
    Reading.ofArguments arguments = .request named (.synth request) ∧
    loadToolchain surroundings named = .ok toolchain ∧
    Prepares (optionsOf request toolchain) (rangeOf request) configuration executor ∧
    talk = converse surroundings.tool (start surroundings.started) executor request.inputs
      request.checkpoint existing ∧
    Conversation surroundings.tool executor request.inputs request.checkpoint existing
      (start surroundings.started) texts talk.2
  heard : talk.1.heard = surroundings.tool.offerAll (surroundings.started, []) texts
  outcome : run surroundings arguments = reported surroundings talk.1.process talk.2

/-- A synthesis command starts the tool only for an executor that is to be run. -/
theorem started_of_run_synth {surroundings : Surroundings τ} {toolchain : Option Toolchain}
    {request : SynthRequest} {process : τ}
    (h : (runSynth surroundings toolchain request).process = some process) :
    ∃ configuration executor path,
      Prepares (optionsOf request toolchain) (rangeOf request) configuration executor ∧
      request.scriptFile = none ∧ toolPath surroundings.files toolchain = .ok path ∧
      surroundings.files.startProgram path = .ok () := by
  rcases hresolve : Configuration.resolve (optionsOf request toolchain) with problem | configuration
  · simp [runSynth, hresolve] at h
  rcases hselect : Executor.select (Script.build configuration) (rangeOf request) with
    problem | executor
  · simp [runSynth, hresolve, hselect] at h
  rcases hmode : configuration.mode with _ | _
  case explain =>
    obtain ⟨-, hstate⟩ := Executor.fresh_of_select hselect
    simp [runSynth, hresolve, hselect, hmode, Executor.explain_of_pending hstate] at h
  rcases hscript : request.scriptFile with _ | file
  case some =>
    simp only [runSynth, hresolve, hselect, hmode, hscript] at h
    -- Writing a script file ends in one of three ways, none of them with a tool.
    split at h
    · cases h
    · split at h <;> cases h
  rcases hpath : toolPath surroundings.files toolchain with failure | path
  · simp [runSynth, hresolve, hselect, hmode, hscript, hpath] at h
  rcases hstarts : surroundings.files.startProgram path with problem | _
  · simp [runSynth, hresolve, hselect, hmode, hscript, hpath, hstarts] at h
  exact ⟨configuration, executor, path, ⟨hresolve, hmode, hselect⟩, rfl, rfl, hstarts⟩

/-- Arguments that ask for synthesis, with a toolchain that can be loaded, run it. -/
theorem run_of_synth {surroundings : Surroundings τ} {arguments : List String}
    {named : Option String} {request : SynthRequest} {toolchain : Option Toolchain}
    (hreading : Reading.ofArguments arguments = .request named (.synth request))
    (hload : loadToolchain surroundings named = .ok toolchain) :
    run surroundings arguments = runSynth surroundings toolchain request := by
  simp only [run, hreading, hload]

/-- Every command line that starts the tool makes the program talk to it. -/
theorem exists_talks {surroundings : Surroundings τ} {arguments : List String} {process : τ}
    (h : (run surroundings arguments).process = some process) :
    ∃ request texts talk, Talks surroundings arguments request texts talk := by
  cases hreading : Reading.ofArguments arguments with
  | rejected | showVersion | showHelp => simp [run, hreading] at h
  | request named asked =>
      rcases hload : loadToolchain surroundings named with report | toolchain
      · simp [run, hreading, hload] at h
      cases asked with
      | version | stages | families | nothing => simp [run, hreading, hload] at h
      | synth request =>
          have hrun := run_of_synth hreading hload
          obtain ⟨configuration, executor, path, hprepares, hscript, hpath, hstarts⟩ :=
            started_of_run_synth (hrun ▸ h)
          obtain ⟨hstate, hmode⟩ := hprepares.fresh
          have hintact : (start surroundings.started).broken = none := rfl
          obtain ⟨texts, hconversation, hheard⟩ :=
            conversation_converse hstate hmode surroundings.tool hintact request.inputs
              request.checkpoint (request.checkpoint.any surroundings.files.has)
          exact ⟨request, texts, _, ⟨named, toolchain, configuration, executor, hreading, hload,
            hprepares, rfl, hconversation⟩, hheard,
            hrun.trans (run_synth_of_started hprepares hscript hpath hstarts)⟩

/-- Surroundings with no file but the tool have no settings. -/
theorem load_toolchain_attended (status : Nat) (answers : List (List UInt8)) :
    loadToolchain (attended status answers) none = .ok none := by
  have hmissing : (attended status answers).files.has Toolchain.defaultFile = false := by
    show Files.has { entries := [(["yosys"], .program)] } Toolchain.defaultFile = false
    decide +kernel
  simp [loadToolchain, toolchainFile, hmissing]

/-- For every command line that starts the tool, the tool is offered the requests for some commands
and is told to exit at most once. A checkpoint is saved only after a command that reads a design has
succeeded if and only if there are inputs or the checkpoint exists. If there are none and it does
not, the run is refused for want of a design, and saving is the one command that is sent. -/
theorem checkpoint_saved_after_read_iff {surroundings : Surroundings τ} {arguments : List String}
    {process : τ} (hstarted : (run surroundings arguments).process = some process) :
    ∃ request commands farewell talk,
      Talks surroundings arguments request (requests 0 commands ++ farewell) talk ∧
      talk.1.process = process ∧ (farewell = [] ∨ farewell = ["exit\n"]) ∧
      ∀ path, request.checkpoint = some path →
        (SavesAfterRead surroundings.tool surroundings.started commands path ↔
          request.inputs ≠ [] ∨ surroundings.files.has path = true) ∧
        (request.inputs = [] → surroundings.files.has path = false →
          commands = [saveCommand path] ∧
          talk.2 =
            .error (.synthesis (.precondition "no input files or checkpoint were read"))) := by
  obtain ⟨request, texts, talk, htalks⟩ := exists_talks hstarted
  obtain ⟨-, -, -, executor, -, -, -, -, hconversation⟩ := htalks.talked
  obtain ⟨commands, farewell, rfl, hfarewell, hsaves⟩ := hconversation.saves_after_read_iff
  refine ⟨request, commands, farewell, talk, htalks, ?_, hfarewell, ?_⟩
  · have hprocess := htalks.outcome ▸ hstarted
    cases hresult : talk.2 <;> rw [hresult] at hprocess <;> exact Option.some.inj hprocess
  · intro path hpath
    have hexisting : request.checkpoint.any surroundings.files.has =
        surroundings.files.has path := by
      rw [hpath]
      rfl
    rw [← hexisting]
    exact hsaves path hpath

/-- A stage is run on a design that was read from a source file, and the design is saved. -/
theorem checkpoint_saved_after_read_of_input :
    let answers := [["qlsynth-ack-1"], ["qlsynth-ack-2"], ["qlsynth-ack-3"], ["qlsynth-ack-4"],
      ["qlsynth-ack-5"], ["qlsynth-ack-6"]].map output
    let surroundings := attended 0 answers
    let sent := ["read_verilog top.v\nlog qlsynth-ack-1\n", "autoname\nlog qlsynth-ack-2\n",
      "hierarchy -check\nlog qlsynth-ack-3\n", "stat\nlog qlsynth-ack-4\n",
      "check -noinit\nlog qlsynth-ack-5\n", "write_rtlil saved.il\nlog qlsynth-ack-6\n", "exit\n"]
    (run surroundings ["synth", "--run", "check", "--checkpoint", "saved.il", "top.v"]).process =
        some ([], sent) ∧
      ∃ commands farewell,
        (surroundings.tool.offerAll (surroundings.started, [])
          (requests 0 commands ++ farewell)).1 = ([], sent) ∧
        SavesAfterRead surroundings.tool surroundings.started commands "saved.il" := by
  intro answers surroundings sent
  have hreading : Reading.ofArguments
      ["synth", "--run", "check", "--checkpoint", "saved.il", "top.v"] =
        .request none (.synth
          { range := some "check", checkpoint := some "saved.il", inputs := ["top.v"] }) := by
    have hrange : Argument.ofText "--run" = .long "run" none := by decide +kernel
    have hcheckpoint : Argument.ofText "--checkpoint" = .long "checkpoint" none := by decide +kernel
    have hinput : Argument.ofText "top.v" = .word "top.v" := by decide +kernel
    rw [Reading.ofArguments, read_arguments_synth (by decide +kernel),
      read_synth_option hrange (by decide +kernel) (by decide +kernel) rfl,
      read_synth_option hcheckpoint (by decide +kernel) (by decide +kernel) rfl,
      read_synth_word hinput, readSynth]
    rfl
  have hload := load_toolchain_attended 0 answers
  have hstarted : (run surroundings
      ["synth", "--run", "check", "--checkpoint", "saved.il", "top.v"]).process =
        some ([], sent) := by
    rw [run_of_synth hreading hload]
    decide +kernel
  obtain ⟨request, commands, farewell, talk, htalks, hprocess, -, hsaves⟩ :=
    checkpoint_saved_after_read_iff hstarted
  obtain ⟨named, -, -, -, hrequest, -⟩ := htalks.talked
  cases hreading.symm.trans hrequest
  exact ⟨hstarted, commands, farewell, (congrArg Prod.fst htalks.heard).symm.trans hprocess,
    (hsaves "saved.il" rfl).1.mpr (.inl (by simp))⟩

/-- Without inputs and with a checkpoint that does not exist, the run is refused because nothing was
read. The first and only command that the tool is sent saves the design all the same. -/
theorem checkpoint_saved_without_design :
    let surroundings := attended 0 [output ["qlsynth-ack-1"]]
    let outcome := run surroundings ["synth", "--checkpoint", "work.il"]
    outcome.process = some ([], ["write_rtlil work.il\nlog qlsynth-ack-1\n", "exit\n"]) ∧
      outcome.stderr =
        "qlsynth-driver: synth: design precondition failed: " ++
          "no input files or checkpoint were read\n  error kind: Precondition\n" ∧
      ¬ SavesAfterRead surroundings.tool surroundings.started ["write_rtlil work.il"]
        "work.il" := by
  intro surroundings outcome
  have hreading : Reading.ofArguments ["synth", "--checkpoint", "work.il"] =
      .request none (.synth { checkpoint := some "work.il" }) := by
    have hcheckpoint : Argument.ofText "--checkpoint" = .long "checkpoint" none := by decide +kernel
    rw [Reading.ofArguments, read_arguments_synth (by decide +kernel),
      read_synth_option hcheckpoint (by decide +kernel) (by decide +kernel) rfl, readSynth]
  have hrun : outcome = runSynth surroundings none { checkpoint := some "work.il" } :=
    run_of_synth hreading (load_toolchain_attended _ _)
  have hsave : "write_rtlil work.il" = saveCommand "work.il" := by decide +kernel
  rw [hrun]
  refine ⟨by decide +kernel, by decide +kernel, ?_⟩
  rw [hsave]
  exact not_saves_after_read_of_save_first "work.il" []

end CommandLine

end StagedSynthesis
