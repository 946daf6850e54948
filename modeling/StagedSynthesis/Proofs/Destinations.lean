import StagedSynthesis.Proofs.Phases
import StagedSynthesis.Proofs.Relevance

/-!
# Destinations

A design is written in each format that has a destination. `Script.stage_frame` says which stages
stay the same when destinations change: all but those of the changed formats, and the stage before
them, which looks at one of the formats. The main theorem, `destinations_are_isolated`, compares the
scripts without and with a destination of one format, and for two of its destinations.
-/

namespace StagedSynthesis

namespace Configuration

/-- The configuration with other destinations. -/
def withOutputs (configuration : Configuration) (outputs : Outputs) : Configuration :=
  { configuration with outputs := outputs }

/-- Other outputs leave the family as it is. -/
@[simp]
theorem family_with_outputs (configuration : Configuration) (outputs : Outputs) :
    (configuration.withOutputs outputs).family = configuration.family :=
  rfl

/-- Other outputs are the destinations of the configuration. -/
@[simp]
theorem output_with_outputs (configuration : Configuration) (outputs : Outputs) :
    (configuration.withOutputs outputs).output = outputs.get :=
  rfl

end Configuration

namespace Flow

open Recipe

/-- No stage before the last four looks at a destination. -/
theorem entered_with_outputs (configuration : Configuration) (outputs : Outputs) :
    ∀ entry ∈ (plan configuration).take 12,
      entry.2.entered (configuration.withOutputs outputs) [] =
        entry.2.entered configuration [] := by
  have hwithout (which : Switch) : (Guard.without which).holds (configuration.withOutputs outputs) =
      (Guard.without which).holds configuration := rfl
  have hgiven (which : Switch) : (Guard.given which).holds (configuration.withOutputs outputs) =
      (Guard.given which).holds configuration := rfl
  have honly (family : Family) : (Guard.only family).holds (configuration.withOutputs outputs) =
      (Guard.only family).holds configuration := rfl
  intro entry hentry
  refine Scoped.entered_eq (configuration.family_with_outputs outputs) ?_ []
  revert entry
  simp only [plan, List.take_succ_cons, List.take_zero, List.forall_mem_cons]
  refine ⟨?libraries, ?prepare, ?mapDsp, ?coarse, ?mapBram, ?mapFfram, ?mapGates, ?mapFfs, ?mapLuts,
    ?mapCells, ?check, ?ioMap, List.forall_mem_nil _⟩
  case mapDsp =>
    refine ⟨rfl, fun family _ => ⟨rfl, ?_⟩⟩
    dsimp only
    split
    · simp [mapDspDirectly, scoped_block, scoped_call, Scoped]
    · simp [mapDspInSteps, scoped_block, scoped_call, Scoped, runIf, callIf, hwithout, hgiven]
  case mapBram =>
    refine ⟨rfl, fun family _ => ⟨rfl, ?_⟩⟩
    cases family <;> simp [scoped_block, scoped_call, Scoped, hgiven]
  case mapGates =>
    simp [mapGates, scoped_block, scoped_call, Scoped, runIf, hwithout, honly, Guard.holds,
      Guard.anyHolds, hgiven]
  all_goals
    simp [libraries, prepare, coarse, mapFfram, mapFfs, mapLuts, mapLutsFor, mapCells, check, ioMap,
      scoped_block, scoped_call, Scoped, readLibrary, Family.all, runIf, callIf,
      Family.shiftRegisterBounds, hwithout, hgiven, honly]

end Flow

namespace OutputFormat

/-- The operation that writes a design in the format. -/
def writer : OutputFormat → String
  | .blif => "write_blif"
  | .edif => "write_ql_edif"
  | .verilog => "write_verilog"

/-- The arguments of the writer in front of the destination. -/
def writerArguments : OutputFormat → List String
  | .blif => ["-param"]
  | .edif => ["-nogndvcc", "-attrprop", "-pvector", "par"]
  | .verilog => ["-noattr", "-nohex"]

/-- The commands that make a design ready for the writer. -/
def preparation : OutputFormat → List String
  | .edif => ["splitnets -ports -format ()", "quicklogic_eqn"]
  | .blif | .verilog => []

/-- The command that writes a design to a path. -/
def writeCommand (format : OutputFormat) (path : String) : String :=
  Text.commandLine format.writer (format.writerArguments ++ [Text.fileArgument path])

/-- The invocations by which a design is written to its destination, where it has one. -/
def writing (format : OutputFormat) : Option String → List Invocation
  | none => []
  | some path =>
      (format.preparation ++ [format.writeCommand path]).map fun command =>
        ⟨command, .output format⟩

/-- The recipe that writes a design in the format. -/
def recipe (configuration : Configuration) : OutputFormat → Recipe
  | .blif => Flow.blif configuration
  | .edif => Flow.edif configuration
  | .verilog => Flow.verilog configuration

/-- The stage of a format writes it to its destination, if it has one. -/
theorem entered_recipe (configuration : Configuration) (format : OutputFormat) :
    (format.recipe configuration).entered configuration [] =
      format.writing (configuration.output format) := by
  cases hdestination : configuration.output format with
  | none =>
      have hguard : (Guard.output format).holds configuration = false := by
        rw [Guard.holds, hdestination]
        rfl
      cases format <;>
        simp [recipe, Flow.blif, Flow.edif, Flow.verilog, Flow.callIf, Recipe.entered, hguard,
          writing]
  | some path =>
      have hguard : (Guard.output format).holds configuration = true := by
        rw [Guard.holds, hdestination]
        rfl
      cases format <;>
        simp only [recipe, Flow.blif, Flow.edif, Flow.verilog, Flow.callIf, Recipe.entered, hguard,
          if_true, Flow.destination, hdestination, writing] <;> rfl

end OutputFormat

namespace Flow

open Recipe

/-- The invocation that drives constants by cells. -/
def drivingConstants : Invocation :=
  ⟨"hilomap -hicell logic_1 a -locell logic_0 a -singleton A:top",
    .any [.only .pp3, .output .edif]⟩

/-- What is left to do before a design is written. Constants are driven by cells in one of the
families, and otherwise for one of the formats. -/
def finalInvocations (family : Family) (written : Bool) : List Invocation :=
  (if .pp3 = family then [⟨"setundef -zero -params -undriven", .only .pp3⟩, drivingConstants]
    else if written then [drivingConstants] else []) ++
    [⟨"opt_clean -purge", .always⟩, ⟨"check", .always⟩, ⟨"blackbox =A:whitebox", .always⟩]

/-- The last changes depend on the family and on whether an EDIF file is written. -/
theorem entered_finalize (configuration : Configuration) :
    finalize.entered configuration [] =
      finalInvocations configuration.family (configuration.output .edif).isSome := by
  simp only [finalize, finalInvocations, runIf, entered_block, List.flatMap_cons, entered_only]
  have hguard : (Guard.any [.only .pp3, .output .edif]).holds configuration =
      (decide (.pp3 = configuration.family) || (configuration.output .edif).isSome) := by
    simp only [Guard.holds, Guard.anyHolds, Guard.holds_only, Bool.or_false]
  by_cases hfamily : .pp3 = configuration.family
  · simp only [if_pos hfamily, entered, hguard, decide_eq_true hfamily, Bool.true_or, if_true]
    rfl
  · simp only [if_neg hfamily, entered, hguard, decide_eq_false hfamily, Bool.false_or]
    cases (configuration.output .edif).isSome <;> rfl

end Flow

namespace Script

section

variable {configuration : Configuration} (hmode : configuration.mode = .execute)
  (outputs : Outputs)
include hmode

/-- Destinations show in the last four stages only. -/
theorem stages_with_outputs :
    (build (configuration.withOutputs outputs)).stages =
      ((Flow.plan configuration).take 12).map
          (fun entry => ⟨entry.1, entry.2.entered configuration []⟩) ++
        ⟨"finalize", Flow.finalize.entered (configuration.withOutputs outputs) []⟩ ::
          OutputFormat.all.map fun format =>
            ⟨format.optionName, format.writing (outputs.get format)⟩ := by
  have hplan : Flow.plan (configuration.withOutputs outputs) =
      (Flow.plan configuration).take 12 ++ ("finalize", Flow.finalize) ::
        OutputFormat.all.map fun format =>
          (format.optionName, format.recipe (configuration.withOutputs outputs)) := rfl
  have hmode' : (configuration.withOutputs outputs).mode = .execute := hmode
  rw [stages_build_of_execute hmode', hplan, List.map_append, List.map_cons, List.map_map]
  refine congrArg₂ _ (List.map_congr_left ?_) (congrArg _ (List.map_congr_left ?_))
  · intro entry hentry
    rw [Flow.entered_with_outputs configuration outputs entry hentry]
  · intro format _
    simp only [Function.comp, OutputFormat.entered_recipe, Configuration.output_with_outputs]

/-- The stage for the last changes depends on the outputs only through the EDIF file. -/
theorem stage_finalize :
    (build (configuration.withOutputs outputs)).stage? "finalize" =
      some ⟨"finalize",
        Flow.finalInvocations configuration.family (outputs.get .edif).isSome⟩ := by
  have hmode' : (configuration.withOutputs outputs).mode = .execute := hmode
  have hentry : ("finalize", Flow.finalize) ∈ Flow.plan (configuration.withOutputs outputs) := by
    simp [Flow.plan]
  rw [stage_of_mem_plan hmode' hentry, Flow.entered_finalize, Configuration.family_with_outputs,
    Configuration.output_with_outputs]

/-- The stage of a format depends only on its own destination. -/
theorem stage_of_format (format : OutputFormat) :
    (build (configuration.withOutputs outputs)).stage? format.optionName =
      some ⟨format.optionName, format.writing (outputs.get format)⟩ := by
  have hmode' : (configuration.withOutputs outputs).mode = .execute := hmode
  have hentry : (format.optionName, format.recipe (configuration.withOutputs outputs)) ∈
      Flow.plan (configuration.withOutputs outputs) := by
    cases format <;> simp [Flow.plan, OutputFormat.recipe, OutputFormat.optionName]
  rw [stage_of_mem_plan hmode' hentry, OutputFormat.entered_recipe,
    Configuration.output_with_outputs]

variable {outputs} {changed : Outputs}

/-- A stage is the same for other destinations if it has nothing to do with those that change. -/
theorem stage_frame {label : String}
    (hfinalize : label = "finalize" →
      .pp3 = configuration.family ∨ (changed.get .edif).isSome = (outputs.get .edif).isSome)
    (hformats : ∀ format : OutputFormat, label = format.optionName →
      changed.get format = outputs.get format) :
    (build (configuration.withOutputs changed)).stage? label =
      (build (configuration.withOutputs outputs)).stage? label := by
  by_cases hlast : label = "finalize"
  · subst hlast
    rw [stage_finalize hmode, stage_finalize hmode]
    rcases hfinalize rfl with hfamily | hsome
    · rw [← hfamily]
      rfl
    · rw [hsome]
  · by_cases hformat : ∃ format : OutputFormat, label = format.optionName
    · obtain ⟨format, rfl⟩ := hformat
      rw [stage_of_format hmode, stage_of_format hmode, hformats format rfl]
    · simp only [not_exists] at hformat
      have hnone (final : List Invocation) (written : OutputFormat → List Invocation) :
          (Stage.mk "finalize" final :: OutputFormat.all.map fun format =>
            ⟨format.optionName, written format⟩).find? (fun stage => stage.label = label) =
            none := by
        simp [OutputFormat.all, Ne.symm hlast, Ne.symm (hformat _)]
      rw [stage?, stage?, stages_with_outputs hmode, stages_with_outputs hmode, List.find?_append,
        List.find?_append, hnone, hnone]

/-- Constants are driven by cells as soon as the format that needs it has a destination. -/
theorem stage_finalize_gains (hfamily : configuration.family ≠ .pp3)
    (hunset : outputs.get .edif = none) (hset : (changed.get .edif).isSome = true) :
    ∃ rest, (build (configuration.withOutputs outputs)).stage? "finalize" =
        some ⟨"finalize", rest⟩ ∧
      (build (configuration.withOutputs changed)).stage? "finalize" =
        some ⟨"finalize", Flow.drivingConstants :: rest⟩ := by
  rw [stage_finalize hmode, stage_finalize hmode, hunset, hset]
  simp only [Flow.finalInvocations, if_neg hfamily.symm]
  exact ⟨_, rfl, rfl⟩

end

end Script

/-- The options with another destination of a format. -/
def Options.withDestination (options : Options) (format : OutputFormat)
    (destination : Option String) : Options :=
  { options with outputs := options.outputs.set format destination }

/-- The writer of a format is called in no other stage. -/
theorem OutputFormat.writer_called_only_in (format : OutputFormat) :
    Flow.CalledOnlyIn format.writer format.optionName := by
  cases format <;> decide

/-- A design is written in the formats that have a destination. -/
theorem Script.writer_called_iff {configuration : Configuration}
    (hmode : configuration.mode = .execute) (outputs : Outputs) (format : OutputFormat) :
    (∃ invocation ∈ (build (configuration.withOutputs outputs)).invocations,
        invocation.name = format.writer) ↔
      (outputs.get format).isSome = true := by
  have hmem {invocation : Invocation} (hname : invocation.name = format.writer) :=
    mem_invocations_iff format.writer_called_only_in (stage_of_format hmode outputs format) hname
  constructor
  · rintro ⟨invocation, hinvocation, hname⟩
    rw [hmem hname] at hinvocation
    cases hdestination : outputs.get format with
    | none => rw [hdestination] at hinvocation; cases hinvocation
    | some path => rfl
  · intro hsome
    obtain ⟨path, hpath⟩ := Option.isSome_iff_exists.mp hsome
    have hname : (Invocation.mk (format.writeCommand path) (.output format)).name =
        format.writer := by
      rw [Invocation.name]
      exact Text.operation_command_line (by cases format <;> decide) _
    refine ⟨⟨format.writeCommand path, .output format⟩, (hmem hname).mpr ?_, hname⟩
    simp [hpath, OutputFormat.writing]

/-- For all options that are resolved for executing and for every format: without a destination
the stage of the format is empty, and with one it ends in the one command that writes to it. All
other stages are the same with and without a destination, except that one format has constants
driven by cells beforehand where the family does not do so anyway. Another destination changes no
more than the command that writes to it. A writer is called exactly if its format has a
destination. -/
theorem destinations_are_isolated {options : Options} {configuration : Configuration}
    (hresolve : Configuration.resolve options = .ok configuration)
    (hexecute : options.explain = false) (format : OutputFormat) :
    ∃ script : Option String → Script,
      (∀ destination,
        (options.withDestination format destination).script = .ok (script destination) ∧
          (script destination).labels = Flow.stageLabels) ∧
      (script none).stage? format.optionName = some ⟨format.optionName, []⟩ ∧
      (∃ before : List Invocation, before.length = (if format = .edif then 2 else 0) ∧
        ∀ path, (script (some path)).stage? format.optionName =
          some ⟨format.optionName,
            before ++ [⟨format.writeCommand path, .output format⟩]⟩) ∧
      (∀ path label, label ≠ format.optionName → (format = .edif → label ≠ "finalize") →
        (script (some path)).stage? label = (script none).stage? label) ∧
      (format = .edif → ∀ path,
        if configuration.family = .pp3 then
          (script (some path)).stage? "finalize" = (script none).stage? "finalize"
        else
          ∃ hilomap rest, hilomap.name = "hilomap" ∧
            (script none).stage? "finalize" = some ⟨"finalize", rest⟩ ∧
            (script (some path)).stage? "finalize" = some ⟨"finalize", hilomap :: rest⟩) ∧
      (∀ path path' label, label ≠ format.optionName →
        (script (some path)).stage? label = (script (some path')).stage? label) ∧
      ∀ destination (asked : OutputFormat),
        (∃ invocation ∈ (script destination).invocations, invocation.name = asked.writer) ↔
          ((options.withDestination format destination).outputs.get asked).isSome = true := by
  have hmode : configuration.mode = .execute := by
    rw [Configuration.mode_of_resolve hresolve, hexecute]
    rfl
  have hother {label : String} (hlabel : label ≠ format.optionName) (one other : Option String)
      (asked : OutputFormat) (hasked : label = asked.optionName) :
      (options.outputs.set format one).get asked =
        (options.outputs.set format other).get asked := by
    have hne : asked ≠ format := fun h => hlabel (h ▸ hasked)
    rw [Outputs.get_set, Outputs.get_set, if_neg hne, if_neg hne]
  refine ⟨fun destination =>
    Script.build (configuration.withOutputs (options.outputs.set format destination)),
    ?resolved, ?unset, ?written, ?frame, ?finalize, ?replaced, ?writers⟩
  case resolved =>
    intro destination
    obtain ⟨family, hfamily, rfl⟩ := Configuration.configured_of_resolve hresolve
    exact ⟨Options.script_of_family hfamily, Script.labels_build _⟩
  case unset =>
    rw [Script.stage_of_format hmode, Outputs.get_set, if_pos rfl]
    rfl
  case written =>
    refine ⟨format.preparation.map fun command => ⟨command, .output format⟩, ?_, ?_⟩
    · cases format <;> rfl
    · intro path
      rw [Script.stage_of_format hmode, Outputs.get_set, if_pos rfl, OutputFormat.writing,
        List.map_append]
      rfl
  case frame =>
    intro path label hlabel hfinalize
    refine Script.stage_frame hmode ?_ (hother hlabel _ _)
    intro hlast
    have hne : .edif ≠ format := fun h => hfinalize h.symm hlast
    rw [Outputs.get_set, Outputs.get_set, if_neg hne, if_neg hne]
    exact .inr rfl
  case finalize =>
    rintro rfl path
    split
    · next hfamily =>
      exact Script.stage_frame hmode (fun _ => .inl hfamily.symm) (hother (by decide) _ _)
    · next hfamily =>
      have hsome : ((options.outputs.set .edif (some path)).get .edif).isSome = true := by
        rw [Outputs.get_set, if_pos rfl, Option.isSome_some]
      obtain ⟨rest, hunset, hset⟩ := Script.stage_finalize_gains hmode hfamily
        (options.outputs.get_set .edif .edif none) hsome
      exact ⟨Flow.drivingConstants, rest, by decide, hunset, hset⟩
  case replaced =>
    intro path path' label hlabel
    refine Script.stage_frame hmode ?_ (hother hlabel _ _)
    intro _
    rw [Outputs.get_set, Outputs.get_set]
    exact .inr (by split <;> rfl)
  case writers =>
    intro destination asked
    exact Script.writer_called_iff hmode _ asked

/-- A destination with a blank besides another format, for a family that does not drive constants
by cells. -/
theorem destinations_are_isolated_blank :
    let options : Options :=
      { family := some "qlf_k6n10f", outputs := { verilog := some "out.v" } }
    Configuration.resolve options = .ok (options.configure .k6n10f) ∧ options.explain = false ∧
      ∃ script : Option String → Script,
        (∀ destination,
          (options.withDestination .edif destination).script = .ok (script destination)) ∧
        (script none).stage? "edif" = some ⟨"edif", []⟩ ∧
        (∃ before : List Invocation, before.length = 2 ∧
          (script (some "a b.edif")).stage? "edif" =
            some ⟨"edif", before ++
              [⟨"write_ql_edif -nogndvcc -attrprop -pvector par \"a b.edif\"",
                .output .edif⟩]⟩) ∧
        (script (some "a b.edif")).stage? "verilog" = (script none).stage? "verilog" ∧
        (∃ hilomap rest, hilomap.name = "hilomap" ∧
          (script none).stage? "finalize" = some ⟨"finalize", rest⟩ ∧
          (script (some "a b.edif")).stage? "finalize" = some ⟨"finalize", hilomap :: rest⟩) ∧
        (∃ invocation ∈ (script none).invocations, invocation.name = "write_verilog") ∧
        ¬ ∃ invocation ∈ (script none).invocations, invocation.name = "write_ql_edif" := by
  intro options
  have hresolve : Configuration.resolve options = .ok (options.configure .k6n10f) := rfl
  obtain ⟨script, hscript, hunset, ⟨before, hlength, hwritten⟩, hframe, hfinalize, -, hwriters⟩ :=
    destinations_are_isolated hresolve rfl .edif
  refine ⟨hresolve, rfl, script, fun destination => (hscript destination).1, hunset,
    ⟨before, hlength, hwritten "a b.edif"⟩, hframe _ "verilog" (by decide) (by decide),
    hfinalize rfl "a b.edif", (hwriters none .verilog).mpr rfl, ?_⟩
  exact mt (hwriters none .edif).mp (by decide)

end StagedSynthesis
