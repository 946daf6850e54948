import StagedSynthesis.Invocation

/-!
# Recipes

What a stage may run: commands in order, parts under a condition, and parts repeated for each of
some families. A recipe has two readings. `Recipe.invocations` records every command with the
conjunction of the conditions around it, and `Recipe.commands` follows one configuration into the
parts whose conditions hold.
-/

namespace StagedSynthesis

/-- The contents of a stage. -/
inductive Recipe where
  | skip
  /-- Run a command. -/
  | run (command : String)
  /-- One part after the other. -/
  | followed (first second : Recipe)
  /-- A part under a condition. -/
  | provided (guard : Guard) (body : Recipe)
  /-- A part for each family, each under the condition that this family is configured. -/
  | forEach (families : List Family) (body : Family → Recipe)

namespace Recipe

/-- Parts in order. -/
def block : List Recipe → Recipe
  | [] => .skip
  | first :: rest => .followed first (block rest)

/-- Run an operation with arguments. -/
def call (name : String) (arguments : List String) : Recipe :=
  .run (Text.commandLine name arguments)

/-- Every command of the recipe, in order, with the conjunction of the conditions around it.
The scope holds the conditions around the recipe itself, outermost first. -/
def invocations (scope : List Guard) : Recipe → List Invocation
  | .skip => []
  | .run command => [⟨command, Guard.conjunction scope⟩]
  | .followed first second => invocations scope first ++ invocations scope second
  | .provided guard body => invocations (scope ++ [guard]) body
  | .forEach families body =>
      families.flatMap fun family => invocations (scope ++ [Guard.only family]) (body family)

/-- The commands that a configuration runs, in order: a part is entered only if its condition
holds, and a part for each family only for the configured one. -/
def commands (configuration : Configuration) : Recipe → List String
  | .skip => []
  | .run command => [command]
  | .followed first second => commands configuration first ++ commands configuration second
  | .provided guard body => if guard.holds configuration then commands configuration body else []
  | .forEach families body =>
      families.flatMap fun family =>
        if family = configuration.family then commands configuration (body family) else []

/-- A block runs what its parts run. -/
theorem commands_block (configuration : Configuration) (parts : List Recipe) :
    (block parts).commands configuration = parts.flatMap (commands configuration) := by
  induction parts with
  | nil => rfl
  | cons part rest ih => simp [block, commands, ih]

end Recipe

end StagedSynthesis
