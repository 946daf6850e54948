import Mathlib.Data.List.Forall2
import StagedSynthesis.Builder

/-!
# Recording and branching

A plan can be carried out by recording: a builder goes through every branch, keeps the conditions of
the open scopes on a stack, records each command with their conjunction, and picks out at the end
what a configuration keeps. It can also be carried out by branching, as `Recipe.commands` does,
which enters a scope only if its condition holds. The main theorem, `recording_refines_branching`,
says that both run the same commands. It rests on `perform_eq`: whatever the builder goes through,
its stack is afterwards what it was before.
-/

namespace StagedSynthesis

/-! ## Conjunctions -/

namespace Guard

/-- A conjunction holds where both conditions do, flattened or not. -/
theorem holds_and (configuration : Configuration) (first second : Guard) :
    (first.and second).holds configuration =
      (first.holds configuration && second.holds configuration) := by
  unfold Guard.and
  split <;> simp [holds, all_hold_eq]

/-- Conditions added one by one to a first one hold if all of them do. -/
theorem holds_foldl_and (configuration : Configuration) (guards : List Guard) (first : Guard) :
    (guards.foldl Guard.and first).holds configuration =
      (first.holds configuration && guards.all (holds configuration)) := by
  induction guards generalizing first with
  | nil => simp
  | cons guard rest ih => rw [List.foldl_cons, ih, holds_and, List.all_cons, Bool.and_assoc]

/-- The conjunction of a list holds where every condition of the list does. -/
theorem holds_conjunction (configuration : Configuration) (guards : List Guard) :
    (conjunction guards).holds configuration = guards.all (holds configuration) := by
  rw [conjunction, holds_foldl_and, holds, Bool.true_and]

/-- The condition for one family holds for that family. -/
theorem holds_only (configuration : Configuration) (family : Family) :
    (only family).holds configuration = decide (family = configuration.family) := by
  simp [only, holds, eq_comm]

end Guard

/-! ## Occurrences of commands -/

/-- A command at one place of a recipe, and the conditions of the scopes around that place, the
outermost first. -/
structure Occurrence where
  scopes : List Guard
  command : String

namespace Occurrence

/-- The occurrence with one more scope around it. -/
def within (guard : Guard) (occurrence : Occurrence) : Occurrence :=
  { occurrence with scopes := guard :: occurrence.scopes }

/-- Every scope around the occurrence is entered by a configuration. -/
def Entered (configuration : Configuration) (occurrence : Occurrence) : Prop :=
  ∀ guard ∈ occurrence.scopes, guard.holds configuration = true

end Occurrence

namespace Recipe

/-- Every place of a recipe at which a command is run, in order. -/
def occurrences : Recipe → List Occurrence
  | .skip => []
  | .run command => [⟨[], command⟩]
  | .followed first second => occurrences first ++ occurrences second
  | .provided guard body => (occurrences body).map (Occurrence.within guard)
  | .forEach families body =>
      families.flatMap fun family =>
        (occurrences (body family)).map (Occurrence.within (Guard.only family))

/-- Every command of a recipe in order, whatever the conditions around it. -/
def everyCommand : Recipe → List String
  | .skip => []
  | .run command => [command]
  | .followed first second => everyCommand first ++ everyCommand second
  | .provided _ body => everyCommand body
  | .forEach families body => families.flatMap fun family => everyCommand (body family)

/-- The occurrences in a recipe have every command that it contains. -/
theorem map_command_occurrences (recipe : Recipe) :
    recipe.occurrences.map Occurrence.command = recipe.everyCommand := by
  induction recipe with
  | skip => rfl
  | run command => rfl
  | followed first second ihFirst ihSecond =>
      rw [occurrences, List.map_append, ihFirst, ihSecond, everyCommand]
  | provided guard body ih =>
      rw [occurrences, List.map_map, everyCommand, ← ih]
      rfl
  | forEach families body ih =>
      simp only [occurrences, everyCommand, List.map_flatMap, List.map_map, ← ih]
      rfl

end Recipe

/-- An invocation is the record of an occurrence: it has its command, and its condition holds
exactly where the conditions of all scopes around it do. -/
structure Invocation.Records (invocation : Invocation) (occurrence : Occurrence) : Prop where
  command : invocation.command = occurrence.command
  guard : ∀ configuration,
    invocation.guard.holds configuration = true ↔ occurrence.Entered configuration

namespace Recipe

/-- Every occurrence is recorded under the conjunction of the scopes around it. -/
theorem invocations_eq (recipe : Recipe) (scope : List Guard) :
    recipe.invocations scope =
      recipe.occurrences.map fun occurrence =>
        ⟨occurrence.command, Guard.conjunction (scope ++ occurrence.scopes)⟩ := by
  induction recipe generalizing scope with
  | skip => rfl
  | run command => simp [invocations, occurrences]
  | followed first second ihFirst ihSecond =>
      rw [invocations, ihFirst, ihSecond, occurrences, List.map_append]
  | provided guard body ih =>
      simp [invocations, ih, occurrences, Function.comp_def, Occurrence.within]
  | forEach families body ih =>
      simp [invocations, ih, occurrences, Function.comp_def, Occurrence.within, List.map_flatMap]

/-- A recipe records each of its occurrences, in order. -/
theorem records_occurrences (recipe : Recipe) :
    List.Forall₂ Invocation.Records (recipe.invocations []) recipe.occurrences := by
  rw [invocations_eq, List.forall₂_map_left_iff, List.forall₂_same]
  intro occurrence _
  refine ⟨rfl, ?_⟩
  intro configuration
  rw [Guard.holds_conjunction, List.nil_append, List.all_eq_true]
  rfl

/-- Of what is recorded in a scope, a configuration that enters the scope keeps the commands that
branching runs, and one that does not keeps none. -/
theorem commands_filter_invocations (configuration : Configuration) (recipe : Recipe)
    (scope : List Guard) :
    ((recipe.invocations scope).filter fun invocation =>
        invocation.guard.holds configuration).map Invocation.command =
      if scope.all (Guard.holds configuration) then recipe.commands configuration else [] := by
  induction recipe generalizing scope with
  | skip => simp [invocations, commands]
  | run command =>
      rw [invocations, List.filter_singleton, Guard.holds_conjunction]
      cases scope.all (Guard.holds configuration) <;> rfl
  | followed first second ihFirst ihSecond =>
      rw [invocations, List.filter_append, List.map_append, ihFirst, ihSecond, commands]
      split <;> rfl
  | provided guard body ih =>
      rw [invocations, ih, commands, List.all_append, List.all_cons, List.all_nil, Bool.and_true]
      cases scope.all (Guard.holds configuration) <;> simp
  | forEach families body ih =>
      simp only [invocations, commands, List.filter_flatMap, List.map_flatMap, ih,
        List.all_append, List.all_cons, List.all_nil, Bool.and_true, Guard.holds_only]
      cases scope.all (Guard.holds configuration) <;> simp

end Recipe

/-! ## The builder -/

namespace Builder

/-- Going through a recipe records its invocations and leaves the stack of conditions as it was. -/
theorem perform_eq (recipe : Recipe) (builder : Builder) :
    perform recipe builder =
      { builder with current := builder.current ++ recipe.invocations builder.guards } := by
  induction recipe generalizing builder with
  | skip => simp [perform, Recipe.invocations]
  | run command => rfl
  | followed first second ihFirst ihSecond =>
      simp [perform, ihFirst, ihSecond, Recipe.invocations]
  | provided guard body ih =>
      simp [perform, ih, push, pop, Recipe.invocations]
  | forEach families body ih =>
      -- The scope of one family is closed before that of the next is opened.
      induction families generalizing builder with
      | nil => simp [perform, Recipe.invocations]
      | cons family rest ihRest =>
          simp only [perform, Recipe.invocations] at ihRest ⊢
          rw [List.foldl_cons, ihRest, ih]
          simp [push, pop]

/-- The stages of a plan are recorded one after the other. -/
theorem foldl_stage_eq (plan : Plan) (builder : Builder) (hcurrent : builder.current = []) :
    plan.foldl stage builder =
      { builder with
        stages := builder.stages ++
          plan.map fun entry => ⟨entry.1, entry.2.invocations builder.guards⟩ } := by
  induction plan generalizing builder with
  | nil => simp
  | cons entry rest ih =>
      rw [List.foldl_cons, ih _ rfl]
      simp [stage, perform_eq, hcurrent]

/-- Recording a plan and finishing it makes the script of the plan. -/
theorem finish_foldl_stage (configuration : Configuration) (plan : Plan) :
    (plan.foldl stage {}).finish configuration = Script.ofPlan configuration plan := by
  rw [foldl_stage_eq plan {} rfl]
  simp only [finish, Script.ofPlan, List.nil_append, List.map_map, Script.mk.injEq, true_and]
  refine List.map_congr_left ?_
  intro entry _
  simp only [Function.comp_apply, keptOf, Script.kept]
  cases configuration.mode <;> rfl

end Builder

/-- The commands of a stage in order. -/
def Stage.commands (stage : Stage) : List String :=
  stage.invocations.map Invocation.command

namespace Script

variable {configuration : Configuration}

/-- For executing, a stage keeps the commands that branching runs. -/
theorem commands_kept_of_execute (hmode : configuration.mode = .execute) (recipe : Recipe) :
    (kept configuration recipe).map Invocation.command = recipe.commands configuration := by
  simp only [kept, hmode]
  exact recipe.commands_filter_invocations configuration []

/-- For explaining, a stage keeps every command. -/
theorem commands_kept_of_explain (hmode : configuration.mode = .explain) (recipe : Recipe) :
    (kept configuration recipe).map Invocation.command = recipe.everyCommand := by
  simp only [kept, hmode]
  rw [← Recipe.map_command_occurrences, Recipe.invocations_eq, List.map_map]
  rfl

/-- The commands of a script are those that its stages keep. -/
theorem map_commands_of_plan (configuration : Configuration) (plan : Plan) :
    (ofPlan configuration plan).stages.map Stage.commands =
      plan.map fun entry => (kept configuration entry.2).map Invocation.command := by
  rw [ofPlan, List.map_map]
  rfl

end Script

/-- For every plan and configuration, the script that a builder records has the labels of the plan.
Executed, each stage has the commands that branching runs, and explained, it has every command. The
condition of each recorded invocation holds exactly where all scopes around it are entered, and the
stack of conditions is the same after every scope as before it. -/
theorem recording_refines_branching (configuration : Configuration) (plan : Plan) :
    let recorded := plan.foldl Builder.stage {}
    let script := recorded.finish configuration
    script = Script.ofPlan configuration plan ∧
      script.labels = plan.map Prod.fst ∧
      (configuration.mode = .execute →
        script.stages.map Stage.commands =
          plan.map fun entry => entry.2.commands configuration) ∧
      (configuration.mode = .explain →
        script.stages.map Stage.commands = plan.map fun entry => entry.2.everyCommand) ∧
      List.Forall₂
        (fun stage entry =>
          List.Forall₂ Invocation.Records stage.invocations entry.2.occurrences)
        recorded.stages plan ∧
      ∀ (recipe : Recipe) (builder : Builder),
        (Builder.perform recipe builder).guards = builder.guards := by
  intro recorded script
  have hscript : script = Script.ofPlan configuration plan :=
    Builder.finish_foldl_stage configuration plan
  refine ⟨hscript, ?_, ?_, ?_, ?_, ?_⟩
  · rw [hscript, Script.labels_of_plan]
  · intro hmode
    rw [hscript, Script.map_commands_of_plan]
    simp only [Script.commands_kept_of_execute hmode]
  · intro hmode
    rw [hscript, Script.map_commands_of_plan]
    simp only [Script.commands_kept_of_explain hmode]
  · have hstages : recorded.stages =
        plan.map fun entry => ⟨entry.1, entry.2.invocations []⟩ :=
      congrArg Builder.stages (Builder.foldl_stage_eq plan {} rfl)
    rw [hstages, List.forall₂_map_left_iff, List.forall₂_same]
    intro entry _
    exact entry.2.records_occurrences
  · intro recipe builder
    rw [Builder.perform_eq]

/-- Scopes inside one another, a family that is listed twice, and a stage of which nothing is left.
-/
theorem recording_refines_branching_nested :
    let plan : Plan :=
      [("begin",
          .block
            [.run "a",
              .provided (.without .noDsp)
                (.block
                  [.run "b",
                    .forEach [.pp3, .k6n10, .pp3] fun family =>
                      .provided (.any [.given .noAbc9, .without .noAdder])
                        (.run ("c " ++ family.name))]),
              .run "d"]),
        ("prepare", .provided (.given .noDsp) (.run "e"))]
    let configuration := Options.configure {} .pp3
    let recorded := plan.foldl Builder.stage {}
    configuration.mode = .execute ∧
      (recorded.finish configuration).stages.map Stage.commands =
        [["a", "b", "c pp3", "c pp3", "d"], []] ∧
      (recorded.finish { configuration with mode := .explain }).stages.map Stage.commands =
        [["a", "b", "c pp3", "c qlf_k6n10", "c pp3", "d"], ["e"]] := by
  intro plan configuration recorded
  obtain ⟨-, -, hexecuted, -⟩ := recording_refines_branching configuration plan
  obtain ⟨-, -, -, hexplained, -⟩ :=
    recording_refines_branching { configuration with mode := .explain } plan
  exact ⟨rfl, hexecuted rfl, hexplained rfl⟩

end StagedSynthesis
