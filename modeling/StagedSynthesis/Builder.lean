import StagedSynthesis.Script

/-!
# Builders of scripts

A script is recorded command by command. A builder keeps the conditions of the scopes that are open
while it goes through the recipe of a stage, and it records each command under all of them. What it
has recorded at the end is made into a script for the mode of a configuration.
-/

namespace StagedSynthesis

/-- A builder: the conditions of the scopes that are open, the outermost first, what is recorded of
the current stage, and the stages that are finished. -/
structure Builder where
  guards : List Guard := []
  current : List Invocation := []
  stages : List Stage := []

namespace Builder

/-- Record a command under the conditions of all open scopes. -/
def record (builder : Builder) (command : String) : Builder :=
  { builder with
    current := builder.current ++ [⟨command, Guard.conjunction builder.guards⟩] }

/-- Open a scope. -/
def push (builder : Builder) (guard : Guard) : Builder :=
  { builder with guards := builder.guards ++ [guard] }

/-- Close the scope that was opened last. -/
def pop (builder : Builder) : Builder :=
  { builder with guards := builder.guards.dropLast }

/-- Go through a recipe, into every scope. -/
def perform : Recipe → Builder → Builder
  | .skip, builder => builder
  | .run command, builder => builder.record command
  | .followed first second, builder => perform second (perform first builder)
  | .provided guard body, builder => (perform body (builder.push guard)).pop
  | .forEach families body, builder =>
      families.foldl
        (fun builder family => (perform (body family) (builder.push (Guard.only family))).pop)
        builder

/-- Go through the recipe of a stage and finish the stage. -/
def stage (builder : Builder) (entry : String × Recipe) : Builder :=
  let performed := perform entry.2 builder
  { performed with
    current := []
    stages := performed.stages ++ [⟨entry.1, performed.current⟩] }

/-- The stage as a configuration keeps it. -/
def keptOf (configuration : Configuration) (stage : Stage) : Stage :=
  match configuration.mode with
  | .explain => stage
  | .execute =>
      { stage with
        invocations := stage.invocations.filter fun invocation =>
          invocation.guard.holds configuration }

/-- The script of what was recorded for a configuration. -/
def finish (builder : Builder) (configuration : Configuration) : Script where
  mode := configuration.mode
  stages := builder.stages.map (keptOf configuration)

end Builder

end StagedSynthesis
