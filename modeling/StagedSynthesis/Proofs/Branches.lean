import StagedSynthesis.Flow
import StagedSynthesis.Proofs.Recording

/-!
# The branches that a configuration enters

A recipe records every command under the conjunction of the conditions around it, and a script that
is made for executing keeps those whose condition holds. `Recipe.entered` reads off what is kept
without recording the rest: it goes into a scope only if its condition holds, and keeps the
conditions on the way. `Script.kept_of_execute` says that the two agree. What a stage keeps can
then be worked out from the outside in, one condition at a time.
-/

namespace StagedSynthesis

namespace Family

/-- No family is listed twice among the capable ones. -/
theorem nodup_having (capable : Family → Bool) : (having capable).Nodup :=
  List.Pairwise.filter capable (by decide)

/-- Exactly the capable families are listed as such. -/
theorem mem_having {capable : Family → Bool} {family : Family} :
    family ∈ having capable ↔ capable family = true := by
  simp [having, mem_all]

end Family

/-- Two configurations make the same choices: they have the same family and the same switches, and
the same formats have a destination. Their texts, their delay target and their mode may differ. -/
structure Configuration.SameChoices (one other : Configuration) : Prop where
  family : one.family = other.family
  switches : one.switches = other.switches
  outputs : ∀ format, (one.output format).isSome = (other.output format).isSome

namespace Guard

/-- The condition that a switch is off holds where it is off. -/
theorem holds_without (configuration : Configuration) (which : Switch) :
    (without which).holds configuration = !configuration.switch which := by
  rw [without, holds, beq_false]

/-- The condition that a switch is on holds where it is on. -/
theorem holds_given (configuration : Configuration) (which : Switch) :
    (given which).holds configuration = configuration.switch which := by
  rw [given, holds, beq_true]

mutual
/-- A condition looks at nothing but choices. -/
theorem holds_congr {one other : Configuration} (h : one.SameChoices other) :
    ∀ guard : Guard, guard.holds one = guard.holds other
  | .always => rfl
  | .family families => by rw [holds, holds, h.family]
  | .switch which on => by
      rw [holds, holds, Configuration.switch, Configuration.switch, h.switches]
  | .output format => by rw [holds, holds, h.outputs]
  | .all parts => by rw [holds, holds, (holds_parts_congr h parts).1]
  | .any parts => by rw [holds, holds, (holds_parts_congr h parts).2]

/-- The parts of a condition look at nothing but choices, whether all or one of them must hold. -/
theorem holds_parts_congr {one other : Configuration} (h : one.SameChoices other) :
    ∀ parts : List Guard,
      allHold one parts = allHold other parts ∧ anyHolds one parts = anyHolds other parts
  | [] => ⟨rfl, rfl⟩
  | part :: rest => by
      have hpart := holds_congr h part
      obtain ⟨hall, hany⟩ := holds_parts_congr h rest
      exact ⟨by rw [allHold, allHold, hpart, hall], by rw [anyHolds, anyHolds, hpart, hany]⟩
end

end Guard

namespace Recipe

/-- The invocations of the scopes that a configuration enters, in order, each under the conjunction
of the conditions around it. The scope holds the conditions around the recipe itself. -/
def entered (configuration : Configuration) (scope : List Guard) : Recipe → List Invocation
  | .skip => []
  | .run command => [⟨command, Guard.conjunction scope⟩]
  | .followed first second =>
      entered configuration scope first ++ entered configuration scope second
  | .provided guard body =>
      if guard.holds configuration then entered configuration (scope ++ [guard]) body else []
  | .forEach families body =>
      families.flatMap fun family =>
        if family = configuration.family then
          entered configuration (scope ++ [Guard.only family]) (body family)
        else
          []

/-- Of what is recorded in a scope, a configuration that enters the scope keeps what it enters, and
one that does not keeps nothing. -/
theorem filter_invocations_eq (configuration : Configuration) (recipe : Recipe)
    (scope : List Guard) :
    ((recipe.invocations scope).filter fun invocation =>
        invocation.guard.holds configuration) =
      if scope.all (Guard.holds configuration) then recipe.entered configuration scope else [] := by
  induction recipe generalizing scope with
  | skip => simp [invocations, entered]
  | run command =>
      rw [invocations, List.filter_singleton, Guard.holds_conjunction]
      cases scope.all (Guard.holds configuration) <;> rfl
  | followed first second ihFirst ihSecond =>
      rw [invocations, List.filter_append, ihFirst, ihSecond, entered]
      split <;> rfl
  | provided guard body ih =>
      rw [invocations, ih, entered, List.all_append, List.all_cons, List.all_nil, Bool.and_true]
      cases scope.all (Guard.holds configuration) <;> simp
  | forEach families body ih =>
      simp only [invocations, entered, List.filter_flatMap, ih, List.all_append, List.all_cons,
        List.all_nil, Bool.and_true, Guard.holds_only]
      cases scope.all (Guard.holds configuration) <;> simp

/-- The commands of what is entered are the commands that branching runs. -/
theorem map_command_entered (configuration : Configuration) (recipe : Recipe)
    (scope : List Guard) :
    (recipe.entered configuration scope).map Invocation.command =
      recipe.commands configuration := by
  induction recipe generalizing scope with
  | skip => rfl
  | run command => rfl
  | followed first second ihFirst ihSecond =>
      rw [entered, List.map_append, ihFirst, ihSecond, commands]
  | provided guard body ih =>
      rw [entered, commands, ← ih (scope ++ [guard])]
      split <;> rfl
  | forEach families body ih =>
      simp only [entered, commands, List.map_flatMap]
      congr
      funext family
      rw [← ih family (scope ++ [Guard.only family])]
      split <;> rfl

section

variable (configuration : Configuration) (scope : List Guard)

/-- The parts of a block are entered one after the other. -/
theorem entered_block (parts : List Recipe) :
    (block parts).entered configuration scope =
      parts.flatMap (entered configuration scope) := by
  induction parts with
  | nil => rfl
  | cons part rest ih => simp [block, entered, ih]

/-- A part for a switch that is off is skipped where the switch is on. -/
theorem entered_without (which : Switch) (body : Recipe) :
    (provided (.without which) body).entered configuration scope =
      if configuration.switch which then []
      else body.entered configuration (scope ++ [.without which]) := by
  rw [entered, Guard.holds_without]
  cases configuration.switch which <;> rfl

/-- A part for a switch that is on is skipped where the switch is off. -/
theorem entered_given (which : Switch) (body : Recipe) :
    (provided (.given which) body).entered configuration scope =
      if configuration.switch which then body.entered configuration (scope ++ [.given which])
      else [] := by
  rw [entered, Guard.holds_given]

/-- A part for one family is skipped for every other family. -/
theorem entered_only (family : Family) (body : Recipe) :
    (provided (.only family) body).entered configuration scope =
      if family = configuration.family then
        body.entered configuration (scope ++ [.only family])
      else
        [] := by
  simp only [entered, Guard.holds_only, decide_eq_true_eq]

/-- Of a part for each of some families, only the one for the configured family is entered. -/
theorem entered_for_each {families : List Family} (hdistinct : families.Nodup)
    (body : Family → Recipe) :
    (forEach families body).entered configuration scope =
      if configuration.family ∈ families then
        (body configuration.family).entered configuration
          (scope ++ [.only configuration.family])
      else
        [] := by
  rw [entered]
  induction families with
  | nil => rfl
  | cons family rest ih =>
      obtain ⟨hfirst, hrest⟩ := List.nodup_cons.mp hdistinct
      rw [List.flatMap_cons, ih hrest]
      by_cases hfamily : family = configuration.family
      · subst hfamily
        simp [hfirst]
      · simp [hfamily, Ne.symm hfamily]

/-- Of the parts for capable families at most that of the configured family is entered, namely if it
is capable. -/
theorem entered_for_each_having (capable : Family → Bool) (body : Family → Recipe) :
    (forEach (Family.having capable) body).entered configuration scope =
      if capable configuration.family then
        (body configuration.family).entered configuration
          (scope ++ [.only configuration.family])
      else
        [] := by
  rw [entered_for_each _ _ (Family.nodup_having capable)]
  simp only [Family.mem_having]

/-- Of the parts for all families that of the configured family is entered. -/
theorem entered_for_each_all (body : Family → Recipe) :
    (forEach Family.all body).entered configuration scope =
      (body configuration.family).entered configuration
        (scope ++ [.only configuration.family]) := by
  rw [entered_for_each _ _ (by decide), if_pos configuration.family.mem_all]

end

/-! What a configuration runs, read off in the same way. -/

section

variable (configuration : Configuration)

/-- A part for a switch that is off runs no command where the switch is on. -/
theorem commands_without (which : Switch) (body : Recipe) :
    (provided (.without which) body).commands configuration =
      if configuration.switch which then [] else body.commands configuration := by
  rw [commands, Guard.holds_without]
  cases configuration.switch which <;> rfl

/-- A part for a switch that is on runs no command where the switch is off. -/
theorem commands_given (which : Switch) (body : Recipe) :
    (provided (.given which) body).commands configuration =
      if configuration.switch which then body.commands configuration else [] := by
  rw [commands, Guard.holds_given]

/-- A part for one family runs no command for another. -/
theorem commands_only (family : Family) (body : Recipe) :
    (provided (.only family) body).commands configuration =
      if family = configuration.family then body.commands configuration else [] := by
  simp only [commands, Guard.holds_only, decide_eq_true_eq]

/-- Parts for capable families run the commands of the configured family, if it is capable. -/
theorem commands_for_each_having (capable : Family → Bool) (body : Family → Recipe) :
    (forEach (Family.having capable) body).commands configuration =
      if capable configuration.family then (body configuration.family).commands configuration
      else [] := by
  rw [← map_command_entered _ _ [], entered_for_each_having,
    ← map_command_entered _ _ ([] ++ [.only configuration.family])]
  split <;> rfl

/-- Parts for all families run the commands of the configured family. -/
theorem commands_for_each_all (body : Family → Recipe) :
    (forEach Family.all body).commands configuration =
      (body configuration.family).commands configuration := by
  rw [← map_command_entered _ _ [], entered_for_each_all, map_command_entered]

end

end Recipe

namespace Script

variable {configuration : Configuration}

/-- A script that is made for executing keeps what the configuration enters. -/
theorem kept_of_execute (hmode : configuration.mode = .execute) (recipe : Recipe) :
    kept configuration recipe = recipe.entered configuration [] := by
  simp only [kept, hmode]
  exact recipe.filter_invocations_eq configuration []

/-- A script for executing has the stages of the plan, each with what the configuration enters. -/
theorem stages_build_of_execute (hmode : configuration.mode = .execute) :
    (build configuration).stages =
      (Flow.plan configuration).map fun entry =>
        ⟨entry.1, entry.2.entered configuration []⟩ := by
  simp only [build, ofPlan, kept_of_execute hmode]

/-- A stage is found by its label if no label is repeated. -/
theorem stage_of_mem {script : Script} (hdistinct : script.labels.Nodup) {stage : Stage}
    (hstage : stage ∈ script.stages) : script.stage? stage.label = some stage := by
  obtain ⟨mode, stages⟩ := script
  simp only [stage?, labels] at hdistinct hstage ⊢
  induction stages with
  | nil => exact absurd hstage List.not_mem_nil
  | cons first rest ih =>
      obtain ⟨hfirst, hrest⟩ := List.nodup_cons.mp hdistinct
      rcases List.mem_cons.mp hstage with rfl | hmem
      · exact List.find?_cons_of_pos (decide_eq_true rfl)
      · have hother : first.label ≠ stage.label := by
          intro hsame
          exact hfirst (hsame ▸ List.mem_map_of_mem hmem)
        rw [List.find?_cons_of_neg (by simpa using hother)]
        exact ih hrest hmem

/-- A stage of a built script is found by its label, as no label is used twice. -/
theorem stage_of_mem_build {stage : Stage} (hstage : stage ∈ (build configuration).stages) :
    (build configuration).stage? stage.label = some stage := by
  refine stage_of_mem ?_ hstage
  rw [labels_build]
  decide

/-- Each recipe of the plan makes the stage of its label. -/
theorem stage_of_mem_plan (hmode : configuration.mode = .execute) {label : String}
    {recipe : Recipe} (hentry : (label, recipe) ∈ Flow.plan configuration) :
    (build configuration).stage? label = some ⟨label, recipe.entered configuration []⟩ := by
  have hstage : Stage.mk label (recipe.entered configuration []) ∈
      (build configuration).stages := by
    rw [stages_build_of_execute hmode]
    exact List.mem_map_of_mem hentry
  exact stage_of_mem_build hstage

end Script

/-- The script of the options. -/
def Options.script (options : Options) : Except Problem Script :=
  (Configuration.resolve options).map Script.build

/-- Options with a known family have the script that is built from their configuration. -/
theorem Options.script_of_family {options : Options} {family : Family}
    (hfamily : options.targetFamily = .ok family) :
    options.script = .ok (Script.build (options.configure family)) := by
  rw [script, Configuration.resolve, hfamily]
  rfl

/-- Options that can be resolved have a known family, and are resolved by configuring them for it.
-/
theorem Configuration.configured_of_resolve {options : Options} {configuration : Configuration}
    (hresolve : resolve options = .ok configuration) :
    ∃ family, options.targetFamily = .ok family ∧ options.configure family = configuration := by
  rw [resolve] at hresolve
  cases hfamily : options.targetFamily with
  | error problem => rw [hfamily] at hresolve; cases hresolve
  | ok family =>
      rw [hfamily] at hresolve
      exact ⟨family, rfl, Except.ok.inj hresolve⟩

end StagedSynthesis
