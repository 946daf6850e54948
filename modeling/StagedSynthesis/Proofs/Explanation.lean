import StagedSynthesis.Proofs.Endings
import StagedSynthesis.ScriptFile

/-!
# Faithful explanations

A script that is made for explaining shows every command with its condition, and one that is made
for executing has the commands whose condition holds. The two come from the same plan, because no
recipe looks at the mode (`Flow.plan_with_mode`), so an explanation never shows a command in
another form or place than that in which it would run. `explanation_faithful` carries this from
the scripts through the selection of stages to what a synthesis call hands to its back end.
-/

namespace StagedSynthesis

variable {δ ι : Type}

/-- The stage with those invocations only whose condition holds. -/
def Stage.keeping (configuration : Configuration) (stage : Stage) : Stage :=
  { stage with
    invocations := stage.invocations.filter fun invocation =>
      invocation.guard.holds configuration }

/-- Whether the condition of a step holds. -/
def Step.holds (configuration : Configuration) (step : Step) : Bool :=
  step.invocation.guard.holds configuration

/-- The steps that stages keep are the steps whose condition holds. -/
theorem steps_of_keeping (configuration : Configuration) (stages : List Stage) :
    stepsOf (stages.map (Stage.keeping configuration)) =
      (stepsOf stages).filter (Step.holds configuration) := by
  induction stages with
  | nil => rfl
  | cons stage rest ih =>
      have hstage : (stage.keeping configuration).steps =
          stage.steps.filter (Step.holds configuration) := by
        rw [Stage.steps, Stage.steps, List.filter_map]
        rfl
      rw [List.map_cons, steps_of_cons, steps_of_cons, hstage, ih, List.filter_append]

/-- No recipe depends on the mode. -/
theorem Flow.plan_with_mode (configuration : Configuration) (mode : Mode) :
    plan { configuration with mode := mode } = plan configuration :=
  rfl

namespace Script

/-- What is executed is what is explained, less the commands whose condition does not hold. -/
theorem stages_build_execute (configuration : Configuration) :
    (build { configuration with mode := .execute }).stages =
      (build { configuration with mode := .explain }).stages.map
        (Stage.keeping { configuration with mode := .execute }) := by
  simp only [build, ofPlan, Flow.plan_with_mode, List.map_map]
  rfl

/-- A span of the executed script keeps what it keeps of the same span of the explained one. -/
theorem between_build_execute (configuration : Configuration) (first last : Nat) :
    (build { configuration with mode := .execute }).between first last =
      ((build { configuration with mode := .explain }).between first last).map
        (Stage.keeping { configuration with mode := .execute }) := by
  simp only [between, stages_build_execute, List.map_drop, List.map_take]

end Script

/-- Options whose family is known resolve, and only the mode depends on whether they ask for an
explanation. -/
theorem Configuration.resolve_with_explain {options : Options} {family : Family}
    (hfamily : options.targetFamily = .ok family) (explain : Bool) :
    resolve { options with explain := explain } =
      .ok { options.configure family with mode := if explain then .explain else .execute } := by
  have htarget : { options with explain := explain }.targetFamily = .ok family := hfamily
  rw [resolve, htarget]
  rfl

/-- Some options leave the family open or name one of the families. -/
def Options.FamilyKnown (options : Options) : Prop :=
  ∀ name, options.family = some name → ∃ family : Family, family.name = name

/-- A family that is left open or known by name is found. -/
theorem Options.target_family_of_known {options : Options} (hknown : options.FamilyKnown) :
    ∃ family, options.targetFamily = .ok family := by
  unfold targetFamily
  cases hname : options.family with
  | none => exact ⟨Family.default, rfl⟩
  | some name =>
      obtain ⟨family, rfl⟩ := hknown name hname
      refine ⟨family, ?_⟩
      simp only [Family.of_name_name]

/-- A back end that never fails. -/
def Backend.NeverFails (backend : Backend δ ι) : Prop :=
  ∀ design invoker invocation, (backend.invoke design invoker invocation).result = .ok ()

/-- A back end that never fails accepts every invocation. -/
theorem Backend.NeverFails.accepts {backend : Backend δ ι} (h : backend.NeverFails)
    (invocations : List Invocation) (design : δ) (invoker : ι) :
    backend.Accepts invocations design invoker := by
  induction invocations generalizing design invoker with
  | nil => trivial
  | cons invocation rest ih => exact ⟨h design invoker invocation, ih _ _⟩

/-- The invocations that a synthesis call hands to the back end, in order. -/
def synthesisCalls (options : Options) (range : StageRange) (backend : Backend δ ι) (design : δ)
    (invoker : ι) : List Invocation :=
  (synthesize options range backend.logged design (invoker, [])).invoker.2

section Selected

variable {options : Options} {range : StageRange} {configuration : Configuration}
  {executor : Executor} (hresolve : Configuration.resolve options = .ok configuration)
  (hselect : Executor.select (Script.build configuration) range = .ok executor)

include hresolve hselect

/-- A synthesis call whose options and range resolve runs the selected executor. -/
theorem synthesize_of_select (backend : Backend δ ι) (design : δ) (invoker : ι) :
    synthesize options range backend design invoker =
      let run := executor.run backend design invoker
      ⟨run.result.map fun _ => run.executor.transcript, run.design, run.invoker,
        Configuration.resolveEvents options ++ run.events⟩ := by
  simp only [synthesize, hresolve, hselect]

/-- The calls of a synthesis are those of the executor that is selected for it. -/
theorem synthesis_calls_of_select (backend : Backend δ ι) (design : δ) (invoker : ι) :
    synthesisCalls options range backend design invoker =
      executor.calls backend design invoker := by
  rw [synthesisCalls, synthesize_of_select hresolve hselect]
  rfl

end Selected

/-- An explained synthesis call lists the selected steps and leaves everything alone, whether or
not the design is ready. -/
theorem synthesize_explains {options : Options} {range : StageRange}
    {configuration : Configuration} {span : Nat × Nat}
    (hresolve : Configuration.resolve options = .ok configuration)
    (hmode : configuration.mode = .explain)
    (hrange : range.resolve (Script.build configuration).labels = .ok span)
    (backend : Backend δ ι) (design : δ) (invoker : ι) :
    let stages := (Script.build configuration).between span.1 span.2
    let explanation := synthesize options range backend design invoker
    explanation.result =
        .ok ⟨stages.map Stage.label, (stepsOf stages).map (Step.entry .listed)⟩ ∧
      explanation.design = design ∧ explanation.invoker = invoker ∧
      synthesisCalls options range backend design invoker = [] := by
  have hselect := Executor.select_eq_ok_iff.mpr ⟨span, hrange, rfl⟩
  have hscript : (Script.build configuration).mode = .explain := hmode
  rw [synthesis_calls_of_select hresolve hselect, synthesize_of_select hresolve hselect,
    Executor.calls, Executor.run_of_explain backend rfl hscript,
    Executor.run_of_explain backend.logged rfl hscript, Executor.explain_of_pending rfl]
  exact ⟨rfl, rfl, rfl, rfl⟩

/-- An executed synthesis call with a ready design and a back end that never fails hands over
every selected step. -/
theorem synthesize_executes {options : Options} {range : StageRange}
    {configuration : Configuration} {span : Nat × Nat}
    (hresolve : Configuration.resolve options = .ok configuration)
    (hmode : configuration.mode = .execute)
    (hrange : range.resolve (Script.build configuration).labels = .ok span)
    {backend : Backend δ ι} (hnever : backend.NeverFails) {design : δ}
    (hready : backend.checkReady design = .ok ()) (invoker : ι) :
    let stages := (Script.build configuration).between span.1 span.2
    synthesisCalls options range backend design invoker = invocationsOf (stepsOf stages) ∧
      (synthesize options range backend design invoker).result =
        .ok ⟨stages.map Stage.label, (stepsOf stages).map (Step.entry .invoked)⟩ := by
  let executor : Executor :=
    { script := Script.build configuration, start := span.1, stop := span.2 }
  have hselect : Executor.select (Script.build configuration) range = .ok executor :=
    Executor.select_eq_ok_iff.mpr ⟨span, hrange, rfl⟩
  have hscript : executor.script.mode = .execute := hmode
  have haccepts := hnever.accepts (invocationsOf (stepsOf executor.selectedStages)) design invoker
  obtain ⟨hcompleted, hhands⟩ := Executor.run_of_accepts rfl hscript hready haccepts
  refine ⟨?_, ?_⟩
  · rw [synthesis_calls_of_select hresolve hselect, hhands.calls]
    rfl
  · rw [synthesize_of_select hresolve hselect]
    simp only [hcompleted.result, hcompleted.transcript]
    rfl

/-- Options with a known family give an executed and an explained script of the same labels, where
each stage executes what it explains less the commands whose condition does not hold. So for every
range that resolves, an explained synthesis call lists, without touching anything, a sequence of
steps of which the executed call hands over exactly those whose condition holds. -/
theorem explanation_faithful {options : Options} (hknown : options.FamilyKnown) :
    ∃ executed explained : Configuration,
      Configuration.resolve { options with explain := false } = .ok executed ∧
      Configuration.resolve { options with explain := true } = .ok explained ∧
      (Script.build executed).labels = (Script.build explained).labels ∧
      (Script.build executed).stages =
        (Script.build explained).stages.map (Stage.keeping executed) ∧
      ∀ (δ ι : Type) (backend : Backend δ ι) (range : StageRange) (span : Nat × Nat),
        range.resolve (Script.build executed).labels = .ok span →
        let listed := stepsOf ((Script.build explained).between span.1 span.2)
        (∀ design invoker,
          let explanation :=
            synthesize { options with explain := true } range backend design invoker
          (∃ transcript, explanation.result = .ok transcript ∧
              transcript.entries = listed.map (Step.entry .listed)) ∧
            explanation.design = design ∧ explanation.invoker = invoker ∧
            synthesisCalls { options with explain := true } range backend design invoker = []) ∧
        (backend.NeverFails → ∀ design invoker, backend.checkReady design = .ok () →
          synthesisCalls { options with explain := false } range backend design invoker =
              invocationsOf (listed.filter (Step.holds executed)) ∧
            ∃ transcript,
              (synthesize { options with explain := false } range backend design invoker).result =
                .ok transcript ∧
              transcript.entries =
                (listed.filter (Step.holds executed)).map (Step.entry .invoked)) := by
  obtain ⟨family, hfamily⟩ := Options.target_family_of_known hknown
  have hexecuted := Configuration.resolve_with_explain hfamily false
  have hexplained := Configuration.resolve_with_explain hfamily true
  refine ⟨_, _, hexecuted, hexplained, ?_, Script.stages_build_execute _, ?_⟩
  · rw [Script.labels_build, Script.labels_build]
  intro δ ι backend range span hrange listed
  refine ⟨?_, ?_⟩
  · intro design invoker
    -- The labels against which the range was resolved do not depend on the mode.
    have hlabels := hrange
    rw [Script.labels_build, ← Script.labels_build] at hlabels
    obtain ⟨hresult, hdesign, hinvoker, hcalls⟩ :=
      synthesize_explains hexplained rfl hlabels backend design invoker
    exact ⟨⟨_, hresult, rfl⟩, hdesign, hinvoker, hcalls⟩
  · intro hnever design invoker hready
    obtain ⟨hcalls, hresult⟩ := synthesize_executes hexecuted rfl hrange hnever hready invoker
    have hspan := Script.between_build_execute (options.configure family) span.1 span.2
    have hsteps := (congrArg stepsOf hspan).trans (steps_of_keeping _ _)
    exact ⟨hcalls.trans (congrArg invocationsOf hsteps), _, hresult,
      congrArg (List.map (Step.entry .invoked)) hsteps⟩

/-- The last stage before the outputs lists five commands with their conditions, though the design
is not ready. The executed call hands over the four that are not for another family. -/
theorem explanation_faithful_finalize :
    let options : Options := { family := some "qlf_k6n10f", outputs := { edif := some "my out" } }
    let explaining := { options with explain := true }
    let hilomap := "hilomap -hicell logic_1 a -locell logic_0 a -singleton A:top"
    options.FamilyKnown ∧
      (∃ transcript,
        (synthesize explaining (.single "finalize") Recorder.backend
            { loaded := false } {}).result = .ok transcript ∧
          transcript.entries =
            [⟨"finalize", "setundef -zero -params -undriven", some "for pp3", .listed⟩,
              ⟨"finalize", hilomap, some "for pp3 or if -edif", .listed⟩,
              ⟨"finalize", "opt_clean -purge", none, .listed⟩,
              ⟨"finalize", "check", none, .listed⟩,
              ⟨"finalize", "blackbox =A:whitebox", none, .listed⟩]) ∧
      synthesisCalls explaining (.single "finalize") Recorder.backend { loaded := false } {} = [] ∧
      (synthesisCalls options (.single "finalize") ScriptFile.backend { inputs := [] } ()).map
          Invocation.command =
        [hilomap, "opt_clean -purge", "check", "blackbox =A:whitebox"] ∧
      ∃ transcript,
        (synthesize options (.single "finalize") ScriptFile.backend { inputs := [] } ()).result =
            .ok transcript ∧
          transcript.entries =
            [⟨"finalize", hilomap, some "for pp3 or if -edif", .invoked⟩,
              ⟨"finalize", "opt_clean -purge", none, .invoked⟩,
              ⟨"finalize", "check", none, .invoked⟩,
              ⟨"finalize", "blackbox =A:whitebox", none, .invoked⟩] := by
  intro options explaining hilomap
  have hknown : options.FamilyKnown := by
    intro name hname
    exact ⟨.k6n10f, Option.some.inj hname⟩
  have hnever : ScriptFile.backend.NeverFails := fun _ _ _ => rfl
  obtain ⟨executed, explained, hexecuted, hexplained, -, -, hruns⟩ := explanation_faithful hknown
  cases hexecuted
  cases hexplained
  have hrange : (StageRange.single "finalize").resolve Flow.stageLabels = .ok (12, 12) := rfl
  obtain ⟨hlists, -⟩ := hruns _ _ Recorder.backend _ _ hrange
  obtain ⟨⟨listing, hlisting, hlisted⟩, -, -, hsilent⟩ := hlists { loaded := false } {}
  obtain ⟨-, hexecutes⟩ := hruns _ _ ScriptFile.backend _ _ hrange
  obtain ⟨hcalls, transcript, hresult, hinvoked⟩ := hexecutes hnever { inputs := [] } () rfl
  refine ⟨hknown, ⟨listing, hlisting, hlisted.trans ?_⟩, hsilent,
    (congrArg (List.map Invocation.command) hcalls).trans ?_, transcript, hresult,
    hinvoked.trans ?_⟩
  · decide
  · decide
  · decide

end StagedSynthesis
