import StagedSynthesis.Recipe

/-!
# Scripts

A script is a sequence of labelled stages. It is made from a plan, which gives a recipe for every
label: in explain mode the script keeps every recorded invocation, and in execute mode those whose
condition holds.
-/

namespace StagedSynthesis

/-- A labelled part of a script. -/
structure Stage where
  label : String
  invocations : List Invocation

/-- Labelled stages in execution order, made for one mode. -/
structure Script where
  mode : Mode
  stages : List Stage

/-- A recipe for every label, in execution order. -/
abbrev Plan := List (String × Recipe)

namespace Script

/-- The invocations of a recipe that a configuration keeps. -/
def kept (configuration : Configuration) (recipe : Recipe) : List Invocation :=
  match configuration.mode with
  | .explain => recipe.invocations []
  | .execute =>
      (recipe.invocations []).filter fun invocation => invocation.guard.holds configuration

/-- The script of a plan for a configuration. -/
def ofPlan (configuration : Configuration) (plan : Plan) : Script where
  mode := configuration.mode
  stages := plan.map fun entry => ⟨entry.1, kept configuration entry.2⟩

/-- The labels of the stages in order. -/
def labels (script : Script) : List String :=
  script.stages.map Stage.label

/-- The first stage with a label. -/
def stage? (script : Script) (label : String) : Option Stage :=
  script.stages.find? fun stage => stage.label = label

/-- All invocations in order. -/
def invocations (script : Script) : List Invocation :=
  script.stages.flatMap Stage.invocations

/-- All commands in order. -/
def commands (script : Script) : List String :=
  script.invocations.map Invocation.command

/-- The labels of a script are those of its plan. -/
theorem labels_of_plan (configuration : Configuration) (plan : Plan) :
    (ofPlan configuration plan).labels = plan.map Prod.fst := by
  simp [ofPlan, labels, Function.comp_def]

end Script

end StagedSynthesis
