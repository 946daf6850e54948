import StagedSynthesis.Proofs.Conversation
import StagedSynthesis.Proofs.Explanation
import StagedSynthesis.Proofs.PartialRuns
import StagedSynthesis.Proofs.ScriptPlacement

/-!
# One stream of commands for two back ends

A synthesis is either written to a script file or carried out by a running tool. Both take their
commands from the same list, `synthesisCommands`: the inputs are read, and the selected stages are
run. A script file holds the whole list behind a comment line, and a tool is sent the list up to the
first command that it does not obey (`Follows`). The main theorem, `back_ends_agree`, says both of
the back ends and of the synthesis commands that use them, down to the file at the path of the
script.
-/

namespace StagedSynthesis

variable {τ : Type}

open Session

/-- The commands of a synthesis without a checkpoint. -/
def synthesisCommands (inputs : List String) (executor : Executor) : List String :=
  inputs.map readCommand ++ commandsOf (stepsOf executor.selectedStages)

/-! ## Script files -/

/-- Lines of text are its parts, each with a line break at its end. -/
theorem Text.lines_eq (parts : List String) : Text.lines parts = String.join (parts.map ended) := by
  simp only [Text.lines, String.join, List.foldl_map, ended, String.append_assoc]

namespace ScriptFile

/-- A script file takes the commands of all invocations down in order. -/
theorem after_backend (invocations : List Invocation) (file : ScriptFile) :
    backend.after invocations file () =
      ({ file with commands := file.commands ++ (invocations.map Invocation.command).toArray },
        ()) := by
  induction invocations generalizing file with
  | nil => simp [Backend.after]
  | cons invocation rest ih =>
      refine (ih (file.record invocation.command)).trans ?_
      simp [record]

/-- A fresh run writes a comment line and the commands of the synthesis. -/
theorem text_run {executor : Executor} (hstate : executor.state = .pending)
    (hmode : executor.script.mode = .execute) (inputs : List String) (header : String) :
    let run := executor.run backend { inputs := inputs } ()
    run.result = .ok () ∧
      run.design.text header =
        String.join ((("# " ++ header) :: synthesisCommands inputs executor).map ended) := by
  intro run
  have hnever : backend.NeverFails := fun _ _ _ => rfl
  have hready : backend.checkReady { inputs := inputs } = .ok () := rfl
  obtain ⟨hcompleted, hhands⟩ := Executor.run_of_accepts hstate hmode hready
    (hnever.accepts (invocationsOf (stepsOf executor.selectedStages)) { inputs := inputs } ())
  have hdesign : run.design =
      ⟨inputs, (commandsOf (stepsOf executor.selectedStages)).toArray⟩ := by
    have hleft := congrArg Prod.fst (hhands.left.trans (after_backend _ _))
    rw [Array.empty_append] at hleft
    exact hleft
  refine ⟨hcompleted.result, ?_⟩
  rw [hdesign, text, Text.lines_eq]
  rfl

end ScriptFile

namespace StageRange

/-- The text of a range that resolves is made of labels and colons. -/
theorem text_of_resolve {range : StageRange} {labels : List String} {span : Nat × Nat}
    (h : range.resolve labels = .ok span) :
    ∃ pieces, (∀ piece ∈ pieces, piece = ":" ∨ piece ∈ labels) ∧
      range.text = String.join pieces := by
  obtain ⟨hstart, hstop, -⟩ := resolve_eq_ok_iff.mp h
  rcases range with ⟨_ | first, _ | last⟩
  · exact ⟨[":"], by simp, rfl⟩
  · exact ⟨[":", last], by simp [mem_of_position hstop], by simp [text, String.join]⟩
  · exact ⟨[first, ":"], by simp [mem_of_position hstart], by simp [text, String.join]⟩
  · by_cases hsame : first = last
    · exact ⟨[first], by simp [mem_of_position hstart], by simp [text, hsame, String.join]⟩
    · refine ⟨[first, ":", last], ?_, by simp [text, hsame, String.join]⟩
      simp [mem_of_position hstart, mem_of_position hstop]

end StageRange

/-- Texts without a line feed are joined to a text without one. -/
theorem line_feed_not_mem_join {pieces : List String}
    (hpieces : ∀ piece ∈ pieces, '\n' ∉ piece.toList) : '\n' ∉ (String.join pieces).toList := by
  rw [String.toList_join, List.mem_flatMap]
  rintro ⟨piece, hpiece, hfeed⟩
  exact hpieces piece hpiece hfeed

/-- The comment of a script file is a single line. -/
theorem CommandLine.line_feed_not_mem_script_header (configuration : Configuration)
    {range : StageRange} {span : Nat × Nat} (h : range.resolve Flow.stageLabels = .ok span) :
    '\n' ∉ (scriptHeader configuration range).toList := by
  have hrange : '\n' ∉ range.text.toList := by
    obtain ⟨pieces, hpieces, htext⟩ := StageRange.text_of_resolve h
    have hlabels : ∀ label ∈ Flow.stageLabels, '\n' ∉ label.toList := by decide +kernel
    rw [htext]
    refine line_feed_not_mem_join fun piece hpiece => ?_
    rcases hpieces piece hpiece with rfl | hlabel
    · decide
    · exact hlabels piece hlabel
  have hfamily : '\n' ∉ configuration.family.name.toList := by
    cases configuration.family <;> decide +kernel
  have hheader : scriptHeader configuration range =
      String.join ["generated by qlsynth-driver ", version, "; family: ",
        configuration.family.name, " run: ", range.text] := by
    delta scriptHeader
    simp only [String.join, List.foldl_cons, List.foldl_nil, String.empty_append]
  rw [hheader]
  refine line_feed_not_mem_join ?_
  simp only [List.forall_mem_cons]
  exact ⟨by decide, by decide, by decide, hfamily, by decide, hrange, by simp⟩

/-! ## Obedient tools -/

namespace Session

/-- A tool in some state, with some output of it still unread, takes in the request for each of some
commands and acknowledges it without reporting an error. In the end it is in some state. -/
inductive Obeys (tool : Tool τ) :
    (count : Nat) → (process : τ) → (unread : List UInt8) → (commands : List String) →
      (final : τ) → Prop
  | done (count : Nat) (process : τ) (unread : List UInt8) :
      Obeys tool count process unread [] process
  | next {count : Nat} {process answered final : τ} {unread printed left : List UInt8}
      {command : String} {rest : List String}
      (hreceive : tool.receive process (asking command (count + 1)) = .ok (answered, printed))
      (hread : readStream (marker (count + 1)) (unread ++ printed) = .acknowledged none left)
      (hrest : Obeys tool (count + 1) answered left rest final) :
      Obeys tool count process unread (command :: rest) final

/-- A session sends all commands to a tool that obeys, and the tool takes all requests in. -/
theorem Obeys.sends {tool : Tool τ} (session : Session τ) {commands : List String} {final : τ}
    (h : Obeys tool session.count session.process session.unread commands final)
    (hintact : session.broken = none) :
    ∃ after, Sends tool session commands commands after (.ok ()) ∧
      after.heard = (final, session.written ++ requests session.count commands) := by
  induction commands generalizing session with
  | nil =>
      cases h
      exact ⟨session, .done session, by simp [heard, requests]⟩
  | cons command rest ih =>
      cases h with
      | @next _ _ answered _ _ printed left _ _ hreceive hread hrest =>
          rw [← request_eq_asking] at hreceive
          have hexecute := execute_eq_ok_iff.mpr
            ⟨hintact, answered, printed, left, hreceive, hread, rfl⟩
          obtain ⟨after, hsends, hheard⟩ :=
            ih { session.requested command answered with unread := left } hrest hintact
          refine ⟨after, .next hexecute hsends, hheard.trans ?_⟩
          simp [requested, requests, request_eq_asking]

/-- A tool to which a session sends all commands with success obeys. -/
theorem Sends.obeys {tool : Tool τ} {session after : Session τ} {plan commands : List String}
    {result : Except String Unit} (h : Sends tool session plan commands after result)
    (hok : result = .ok ()) :
    Obeys tool session.count session.process session.unread plan after.process := by
  induction h with
  | done session => exact .done _ _ _
  | failed rest hintact hfails => cases hok
  | next hsucceeds hrest ih =>
      obtain ⟨-, answered, printed, left, hreceive, hread, rfl⟩ :=
        execute_eq_ok_iff.mp hsucceeds
      rw [request_eq_asking] at hreceive
      exact .next hreceive hread (ih hok)

end Session

namespace CommandLine

variable {tool : Tool τ} {executor : Executor} {inputs : List String}

/-- Without a checkpoint, a conversation about some inputs consists of the commands of the synthesis
up to the first that fails. If none fails, the session is left as usual. -/
theorem Conversation.sends {existing : Bool} {session : Session τ} {texts : List String}
    {result : Except SynthFailure Unit}
    (h : Conversation tool executor inputs none existing session texts result)
    (hinputs : inputs ≠ []) (hintact : session.broken = none) :
    (∃ after farewell leaving,
      Sends tool session (synthesisCommands inputs executor) (synthesisCommands inputs executor)
        { after with loaded := session.loaded } (.ok ()) ∧
      Leaves tool after farewell leaving ∧
      texts = requests session.count (synthesisCommands inputs executor) ++ farewell ∧
      result = firstFailure (.ok ()) (.ok ()) leaving) ∨
    (∃ commands after cause farewell failure,
      Sends tool session (synthesisCommands inputs executor) commands after (.error cause) ∧
      (farewell = [] ∨ farewell = ["exit\n"]) ∧
      texts = requests session.count commands ++ farewell ∧ result = .error failure) := by
  cases h with
  | unloaded hloads =>
      cases hloads with
      | notRead hsends =>
          exact .inr ⟨_, _, _, [], _, hsends.append_plan rfl _, .inl rfl,
            (List.append_nil _).symm, rfl⟩
  | @loaded _ runs _ farewell _ ran _ _ _ leaving hloads hruns hsaves hleaves =>
      cases hsaves
      cases hloads with
      | @read _ _ _ reading hsource hreads =>
          have hloaded : (!inputs.isEmpty) = true := by simpa using hinputs
          have hready : { reading with loaded := !inputs.isEmpty }.checkReady = .ok () := by
            simp only [checkReady, hreads.intact rfl hintact, hloaded, if_true]
          -- The session is marked as loaded between the two lists of commands.
          have hall : ∀ {commands : List String} {result : Except String Unit},
              Sends tool { reading with loaded := !inputs.isEmpty }
                (commandsOf (stepsOf executor.selectedStages)) commands ran result →
              Sends tool session (synthesisCommands inputs executor)
                (inputs.map readCommand ++ commands) { ran with loaded := session.loaded } result :=
            fun hsends => ((hreads.with_loaded _).append rfl hsends).with_loaded session.loaded
          rw [List.append_nil]
          cases hruns with
          | refused hrefused => cases hready.symm.trans hrefused
          | completed _ hsends =>
              exact .inl ⟨ran, farewell, leaving, hall hsends, hleaves, rfl, rfl⟩
          | aborted _ position hsends =>
              refine .inr ⟨_, _, _, farewell, _, hall hsends, ?_, rfl, rfl⟩
              cases hleaves with
              | broken => exact .inl rfl
              | succeeded | failed => exact .inr rfl

/-- A talk with a tool in some state follows a list of commands. -/
structure Follows (tool : Tool τ) (process : τ) (commands : List String)
    (talk : Session τ × Except SynthFailure Unit) : Prop where
  /-- A tool that obeys takes in all commands and then the request to exit. The talk succeeds if the
  tool exits with success. -/
  obeyed : ∀ final, Obeys tool 0 process [] commands final →
    talk.1.heard = tool.offer (final, requests 0 commands) "exit\n" ∧
      (tool.exitStatus (tool.offer (final, requests 0 commands) "exit\n").1 = 0 → talk.2 = .ok ())
  /-- Otherwise the commands end with the first that is not obeyed, the request to exit follows at
  most, and the talk fails. -/
  stopped : (¬ ∃ final, Obeys tool 0 process [] commands final) →
    ∃ earlier failing rest farewell, commands = earlier ++ failing :: rest ∧
      (∃ reached, Obeys tool 0 process [] earlier reached) ∧
      (¬ ∃ reached, Obeys tool 0 process [] (earlier ++ [failing]) reached) ∧
      talk.1.heard =
        tool.offerAll (process, []) (requests 0 (earlier ++ [failing]) ++ farewell) ∧
      (farewell = [] ∨ farewell = ["exit\n"]) ∧ ∃ failure, talk.2 = .error failure

/-- A talk about some inputs follows the commands of the synthesis. -/
theorem follows_converse (hstate : executor.state = .pending)
    (hmode : executor.script.mode = .execute) (hinputs : inputs ≠ []) (tool : Tool τ)
    (process : τ) :
    Follows tool process (synthesisCommands inputs executor)
      (converse tool (start process) executor inputs none false) := by
  have hintact : (start process).broken = none := rfl
  obtain ⟨texts, hconversation, hheard⟩ :=
    conversation_converse hstate hmode tool hintact inputs none false
  refine ⟨?_, ?_⟩
  · intro final hobeys
    obtain ⟨reached, hreached, hreachedHeard⟩ := Obeys.sends (start process) hobeys hintact
    rcases hconversation.sends hinputs hintact with
      ⟨after, farewell, leaving, hsends, hleaves, rfl, hresult⟩ |
        ⟨commands, after, cause, farewell, failure, hsends, -⟩
    · obtain ⟨-, rfl, -⟩ := hreached.unique hsends
      have hbroken : after.broken = none := hsends.intact rfl hintact
      have hafter : after.heard = (final, requests 0 (synthesisCommands inputs executor)) :=
        hreachedHeard
      rw [Tool.offer_all_append, ← hsends.sent.heard] at hheard
      have hleft : _ = tool.offerAll after.heard farewell := hheard
      rw [hafter] at hleft
      cases hleaves with
      | broken hreason => cases hbroken.symm.trans hreason
      | succeeded => exact ⟨hleft, fun _ => hresult⟩
      | failed _ hstatus hfailed =>
          rw [hafter] at hstatus
          exact ⟨hleft, fun hzero => absurd (hstatus.symm.trans hzero) hfailed⟩
    · cases (hreached.unique hsends).2.2
  · intro hdisobeys
    rcases hconversation.sends hinputs hintact with
      ⟨after, farewell, leaving, hsends, -⟩ |
        ⟨commands, after, cause, farewell, failure, hsends, hfarewell, rfl, hresult⟩
    · exact absurd ⟨_, hsends.obeys rfl⟩ hdisobeys
    · obtain ⟨earlier, failing, rest, reached, hplan, rfl, hearlier, hcommands⟩ :=
        hsends.last_failed rfl
      refine ⟨earlier, failing, rest, farewell, hplan, ⟨_, hearlier.obeys rfl⟩, ?_, hheard,
        hfarewell, failure, hresult⟩
      rintro ⟨final, hobeys⟩
      obtain ⟨_, hobeyed, -⟩ := Obeys.sends (start process) hobeys hintact
      cases (hobeyed.unique hcommands).2.2

/-! ## Synthesis commands -/

/-- What a synthesis command leaves behind once it has written a script file. -/
def published (surroundings : Surroundings τ) : Files × Except SynthFailure Unit → Outcome τ
  | (files, .error failure) =>
      { exitCode := 1
        stderr := failure.report.text surroundings.colored
        files := files }
  | (files, .ok ()) => { files := files }

variable {options : Options} {range : StageRange} {configuration : Configuration}

/-- A synthesis command that asks for a script file writes the text of a run. -/
theorem run_synth_of_script {surroundings : Surroundings τ} {toolchain : Option Toolchain}
    {request : SynthRequest} {path text : String}
    (hprepares : Prepares (optionsOf request toolchain) (rangeOf request) configuration executor)
    (hscript : request.scriptFile = some path)
    (hrun : (executor.run ScriptFile.backend { inputs := request.inputs } ()).result = .ok ())
    (htext : (executor.run ScriptFile.backend { inputs := request.inputs } ()).design.text
      (scriptHeader configuration (rangeOf request)) = text) :
    runSynth surroundings toolchain request =
      published surroundings (writeScript surroundings path text) := by
  simp only [runSynth, hprepares.resolved, hprepares.selected, hprepares.executes, hscript, hrun,
    htext]
  rcases writeScript surroundings path text with ⟨files, _ | _⟩ <;> rfl

/-- A synthesis command that publishes a script succeeds exactly if writing the script does. -/
theorem exit_code_published_eq_zero_iff {surroundings : Surroundings τ}
    {written : Files × Except SynthFailure Unit} :
    (published surroundings written).exitCode = 0 ↔
      written = ((published surroundings written).files, .ok ()) := by
  rcases written with ⟨files, failure | _⟩ <;> simp [published]

/-- A synthesis command asks for some options, a range and inputs, and for no checkpoint. -/
structure AsksFor (request : SynthRequest) (toolchain : Option Toolchain) (options : Options)
    (range : StageRange) (inputs : List String) : Prop where
  options_eq : optionsOf request toolchain = options
  range_eq : rangeOf request = range
  inputs_eq : request.inputs = inputs
  checkpoint_eq : request.checkpoint = none

/-- For options and a range that make an executor, and for some inputs, the script file holds a
single comment line and the commands of the synthesis, and a talk with a tool follows the same
commands. Synthesis commands write this file and hold this talk. If writing succeeds, the path of
the script reads the text afterwards, and it does succeed under a name that a file can have in the
working directory. -/
theorem back_ends_agree (hprepares : Prepares options range configuration executor)
    (hinputs : inputs ≠ []) (surroundings : Surroundings τ) :
    let commands := synthesisCommands inputs executor
    let header := scriptHeader configuration range
    let text := String.join ((("# " ++ header) :: commands).map ended)
    let run := executor.run ScriptFile.backend { inputs := inputs } ()
    let talk := converse surroundings.tool (start surroundings.started) executor inputs none false
    ('\n' ∉ header.toList ∧
      ∃ pieces, (∀ piece ∈ pieces, piece = ":" ∨ piece ∈ Flow.stageLabels) ∧
        range.text = String.join pieces) ∧
      (run.result = .ok () ∧ run.design.text header = text) ∧
      Follows surroundings.tool surroundings.started commands talk ∧
      ∀ request toolchain, AsksFor request toolchain options range inputs →
        (∀ path, request.scriptFile = some path →
          let outcome := runSynth surroundings toolchain request
          outcome = published surroundings (writeScript surroundings path text) ∧
            (outcome.exitCode = 0 → surroundings.files.Gains outcome.files
              surroundings.temporaryName path text) ∧
            (TakesFile surroundings path → outcome.exitCode = 0)) ∧
        (∀ path, request.scriptFile = none → toolPath surroundings.files toolchain = .ok path →
          surroundings.files.startProgram path = .ok () →
          runSynth surroundings toolchain request =
            reported surroundings talk.1.process talk.2) := by
  intro commands header text run talk
  obtain ⟨hstate, hmode⟩ := hprepares.fresh
  obtain ⟨span, hresolve, -⟩ := Executor.select_eq_ok_iff.mp hprepares.selected
  rw [Script.labels_build] at hresolve
  obtain ⟨hrun, htext⟩ := ScriptFile.text_run hstate hmode inputs header
  refine ⟨⟨line_feed_not_mem_script_header configuration hresolve,
    StageRange.text_of_resolve hresolve⟩, ⟨hrun, htext⟩,
    follows_converse hstate hmode hinputs surroundings.tool surroundings.started, ?_⟩
  rintro request toolchain ⟨rfl, rfl, rfl, hcheckpoint⟩
  refine ⟨?_, ?_⟩
  · intro path hscript outcome
    have houtcome : outcome = published surroundings (writeScript surroundings path text) :=
      run_synth_of_script hprepares hscript hrun htext
    refine ⟨houtcome, ?_, ?_⟩
    · intro hcode
      rw [houtcome] at hcode ⊢
      exact gains_of_write_script (exit_code_published_eq_zero_iff.mp hcode)
    · intro htakes
      obtain ⟨files, hwritten⟩ := htakes.write_script text
      rw [houtcome, hwritten]
      rfl
  · intro path hscript hpath hstarts
    rw [run_synth_of_started hprepares hscript hpath hstarts, hcheckpoint]
    rfl

/-- The last stages of a flow, with an input and an output whose names have to be quoted. The tool
is sent what the script file holds. -/
theorem back_ends_agree_last_stages :
    let request : SynthRequest :=
      { range := some "blif:"
        inputs := ["top module.v"]
        outputs := { blif := some "my out.blif" } }
    let scripted := { request with scriptFile := some "last stages.ys" }
    let configuration := (optionsOf request none).configure .default
    let executor : Executor := { script := Script.build configuration, start := 13, stop := 15 }
    let commands := ["read_verilog \"top module.v\"", "write_blif -param \"my out.blif\""]
    let sent := ["read_verilog \"top module.v\"\nlog qlsynth-ack-1\n",
      "write_blif -param \"my out.blif\"\nlog qlsynth-ack-2\n"]
    let answers := [["Parsing.", "qlsynth-ack-1"], ["yosys> qlsynth-ack-2"]]
    let surroundings := attended 0 (answers.map output)
    Prepares (optionsOf request none) (rangeOf request) configuration executor ∧
      request.inputs ≠ [] ∧
      AsksFor scripted none (optionsOf request none) (rangeOf request) ["top module.v"] ∧
      TakesFile surroundings "last stages.ys" ∧
      (runSynth surroundings none scripted).exitCode = 0 ∧
      (runSynth surroundings none scripted).files.readText "last stages.ys" =
        .ok ("# generated by qlsynth-driver 0.1.0; family: qlf_k4n8 run: blif:\n" ++
          "read_verilog \"top module.v\"\nwrite_blif -param \"my out.blif\"\n") ∧
      Obeys (remembering 0) 0 surroundings.started [] commands ([], sent) ∧
      runSynth surroundings none request =
        reported surroundings ([], sent ++ ["exit\n"]) (.ok ()) := by
  intro request scripted configuration executor commands sent answers surroundings
  have hprepares : Prepares (optionsOf request none) (rangeOf request) configuration executor :=
    ⟨rfl, rfl, rfl⟩
  have hinputs : request.inputs ≠ [] := List.cons_ne_nil _ _
  have hasks : AsksFor request none (optionsOf request none) (rangeOf request) ["top module.v"] :=
    ⟨rfl, rfl, rfl, rfl⟩
  have hscripted : AsksFor scripted none (optionsOf request none) (rangeOf request)
      ["top module.v"] := ⟨rfl, rfl, rfl, rfl⟩
  have hfree : surroundings.files.at? ["last stages.ys"] ≠ some .directory := by decide +kernel
  have htakes : TakesFile surroundings "last stages.ys" :=
    ⟨⟨by decide, by decide, by decide, by decide +kernel⟩, by decide, hfree, by decide +kernel⟩
  have hfirst : readStream (marker 1) (output ["Parsing.", "qlsynth-ack-1"]) =
      .acknowledged none [] := by decide +kernel
  have hsecond : readStream (marker 2) (output ["yosys> qlsynth-ack-2"]) =
      .acknowledged none [] := by decide +kernel
  have hobeys : Obeys (remembering 0) 0 surroundings.started [] commands ([], sent) :=
    .next rfl hfirst (.next rfl hsecond (.done _ _ _))
  obtain ⟨-, -, hfollows, hruns⟩ := back_ends_agree hprepares hinputs surroundings
  have hcommands : synthesisCommands request.inputs executor = commands := by decide +kernel
  rw [hcommands] at hfollows hruns
  obtain ⟨-, hgains, hsucceeds⟩ := (hruns scripted none hscripted).1 _ rfl
  obtain ⟨hheard, hresult⟩ := hfollows.obeyed _ hobeys
  refine ⟨hprepares, hinputs, hscripted, htakes, hsucceeds htakes,
    (hgains (hsucceeds htakes)).reads.trans (congrArg Except.ok (by decide +kernel)), hobeys, ?_⟩
  rw [(hruns request none hasks).2 "yosys" rfl rfl rfl, hresult rfl]
  exact congrArg (reported surroundings · _) (congrArg Prod.fst hheard)

end CommandLine

end StagedSynthesis
