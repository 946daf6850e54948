import StagedSynthesis.Proofs.Relevance

/-!
# The delay target

Two places decide whether the timing-driven mapper runs: `runsAbc9`, on which the warning about a
missing delay target depends, and the conditions of the recipe that maps lookup tables.
`Flow.abc9_commands` says that they agree and what the mapper is called with. The main theorem,
`delay_warning_agrees_with_script`, carries this over to the warning and to scripts.
-/

namespace StagedSynthesis

/-- The arguments of the timing-driven mapper in front of the delay target. -/
def Family.abc9Arguments : Family → List String
  | .pp3 => ["-maxlut", "4", "-dff"]
  | .k4n8 | .k6n10 | .k6n10f => ["-maxlut", "6"]

/-- Each fixed argument of the mapper with timing is a single word. -/
theorem Family.space_not_mem_abc9_arguments (family : Family) :
    ∀ argument ∈ family.abc9Arguments, ' ' ∉ argument.toList := by
  cases family <;> decide

namespace Flow

/-- The timing-driven mapper is called once, with the delay target behind its other arguments, where
it is said to run, and else not at all. -/
theorem abc9_commands (configuration : Configuration) :
    ((mapLuts configuration).commands configuration).filter
        (fun command => Text.operation command = "abc9") =
      if runsAbc9 configuration.family configuration.switches then
        [Text.commandLine "abc9"
          (configuration.family.abc9Arguments ++ ["-D", Text.decimal configuration.delay])]
      else
        [] := by
  have hopt : configuration.switch .noAbcOpt = configuration.switches.noAbcOpt := rfl
  have hmap : configuration.switch .noAbc9 = configuration.switches.noAbc9 := rfl
  rw [commands_map_luts, hopt, runsAbc9]
  cases configuration.switches.noAbcOpt with
  | true => rfl
  | false =>
      cases configuration.family with
      | k4n8 =>
          rw [Family.mapsLutsWithAbc9, Bool.and_false]
          rfl
      | pp3 =>
          rw [commands_map_luts_for_pp3, hmap]
          cases configuration.switches.noAbc9 <;>
            simp +decide [Text.operation_command_line, Family.abc9Arguments]
      | k6n10 | k6n10f =>
          rw [commands_map_luts_for_k6 _ (by decide), hmap]
          cases configuration.switches.noAbc9 <;>
            simp +decide [Text.operation_command_line, Family.abc9Arguments]

/-- A call of the timing-driven mapper is one of its commands. -/
theorem mem_abc9_commands {configuration : Configuration} {invocation : Invocation}
    (hinvocation : invocation ∈ (mapLuts configuration).entered configuration [])
    (hname : invocation.name = "abc9") :
    invocation.command ∈ ((mapLuts configuration).commands configuration).filter
      fun command => Text.operation command = "abc9" := by
  rw [List.mem_filter, ← Recipe.map_command_entered _ _ [], ← Invocation.name]
  exact ⟨List.mem_map_of_mem hinvocation, decide_eq_true hname⟩

/-- The mapper with timing is called with the fixed arguments of the family and then the delay
target. -/
theorem command_of_abc9 {configuration : Configuration} {invocation : Invocation}
    (hinvocation : invocation ∈ (mapLuts configuration).entered configuration [])
    (hname : invocation.name = "abc9") :
    invocation.command = Text.commandLine "abc9"
      (configuration.family.abc9Arguments ++ ["-D", Text.decimal configuration.delay]) := by
  have hcommand := mem_abc9_commands hinvocation hname
  rw [abc9_commands] at hcommand
  split at hcommand
  · exact List.mem_singleton.mp hcommand
  · cases hcommand

/-- Mapping lookup tables calls the mapper with timing exactly if the family has one and no switch
turns it off. -/
theorem calls_abc9_iff (configuration : Configuration) :
    (∃ invocation ∈ (mapLuts configuration).entered configuration [],
        invocation.name = "abc9") ↔
      runsAbc9 configuration.family configuration.switches = true := by
  constructor
  · rintro ⟨invocation, hinvocation, hname⟩
    have hcommand := mem_abc9_commands hinvocation hname
    by_contra hruns
    rw [abc9_commands, if_neg hruns] at hcommand
    cases hcommand
  · intro hruns
    have hfilter := abc9_commands configuration
    rw [if_pos hruns] at hfilter
    obtain ⟨hcommand, hname⟩ := List.mem_filter.mp (hfilter ▸ List.mem_singleton_self _)
    rw [← Recipe.map_command_entered _ _ []] at hcommand
    obtain ⟨invocation, hinvocation, hsame⟩ := List.mem_map.mp hcommand
    refine ⟨invocation, hinvocation, ?_⟩
    rw [Invocation.name, hsame]
    exact of_decide_eq_true hname

end Flow

namespace Script

variable {configuration : Configuration} (hmode : configuration.mode = .execute)
include hmode

/-- The stage for lookup tables is found by its label. -/
theorem stage_map_luts :
    (build configuration).stage? "map_luts" =
      some ⟨"map_luts", (Flow.mapLuts configuration).entered configuration []⟩ :=
  stage_of_mem_plan hmode (by simp [Flow.plan])

/-- The calls of the mapper with timing are those of the stage for lookup tables. -/
theorem abc9_mem_iff {invocation : Invocation} (hname : invocation.name = "abc9") :
    invocation ∈ (build configuration).invocations ↔
      invocation ∈ (Flow.mapLuts configuration).entered configuration [] :=
  mem_invocations_iff Flow.abc9_called_only_in (stage_map_luts hmode) hname

/-- A script calls the mapper with timing exactly if the family has one and no switch turns it off.
-/
theorem calls_abc9_iff :
    (∃ invocation ∈ (build configuration).invocations, invocation.name = "abc9") ↔
      runsAbc9 configuration.family configuration.switches = true := by
  rw [← Flow.calls_abc9_iff]
  exact exists_congr fun invocation => and_congr_left fun hname => abc9_mem_iff hmode hname

end Script

/-- An event warns that the delay target has not been set. -/
def Event.WarnsOfDelay (event : Event) : Prop :=
  event.level = .warn ∧ "delay target has not been set".toList <+: event.message.toList

/-- The delay target is warned of where none is given and the timing-driven mapper is to run. -/
theorem Options.warns_of_delay_iff (options : Options) (family : Family) :
    (∃ event ∈ options.configureEvents family, event.WarnsOfDelay) ↔
      options.delay = none ∧ runsAbc9 family (options.configure family).switches = true := by
  have hcondition : (options.delay.isNone && runsAbc9 family (options.configure family).switches) =
      true ↔ options.delay = none ∧ runsAbc9 family (options.configure family).switches = true := by
    rw [Bool.and_eq_true, Option.isNone_iff_eq_none]
  rw [← hcondition, configureEvents]
  constructor
  · rintro ⟨event, hevent, hlevel, -⟩
    rcases List.mem_append.mp hevent with hevent | hevent
    · rcases List.mem_append.mp hevent with hevent | hevent
      · split at hevent
        · cases List.mem_singleton.mp hevent
          cases hlevel
        · cases hevent
      · by_contra hnone
        rw [if_neg hnone] at hevent
        cases hevent
    · cases List.mem_singleton.mp hevent
      cases hlevel
  · intro hwarned
    refine ⟨.delayAssumed defaultDelay, ?_, rfl, ?_⟩
    · refine List.mem_append_left _ (List.mem_append_right _ ?_)
      exact (if_pos hwarned).symm ▸ List.mem_singleton_self _
    · exact ⟨"; assuming 12 MHz clock (500 ps)".toList, by decide⟩

/-- For all options that are resolved, the delay target is warned of exactly if none is given and
the script that is made for executing calls the timing-driven mapper. Each call has the delay
target that is given, or the default, behind the only `-D` among its arguments. Whether the mapper
is said to run decides whether the stage that maps lookup tables calls it. -/
theorem delay_warning_agrees_with_script {options : Options} {configuration : Configuration}
    (hresolve : Configuration.resolve options = .ok configuration) :
    ∃ script, { options with explain := false }.script = .ok script ∧
      ((∃ event ∈ Configuration.resolveEvents options, event.WarnsOfDelay) ↔
        options.delay = none ∧
          ∃ invocation ∈ script.invocations, invocation.name = "abc9") ∧
      (∀ invocation ∈ script.invocations, invocation.name = "abc9" →
        ∃ front, "-D" ∉ front ∧
          Text.pieces ' ' invocation.arguments =
            front ++ ["-D", Text.decimal (options.delay.getD defaultDelay)]) ∧
      (runsAbc9 configuration.family configuration.switches = true ↔
        ∃ stage, script.stage? "map_luts" = some stage ∧
          ∃ invocation ∈ stage.invocations, invocation.name = "abc9") := by
  obtain ⟨family, hfamily, rfl⟩ := Configuration.configured_of_resolve hresolve
  have hfamily' : { options with explain := false }.targetFamily = .ok family := hfamily
  have hmode : ({ options with explain := false }.configure family).mode = .execute := rfl
  have hcalls := Flow.calls_abc9_iff ({ options with explain := false }.configure family)
  refine ⟨_, Options.script_of_family hfamily', ?warning, ?arguments, ?stage⟩
  case warning =>
    rw [Script.calls_abc9_iff hmode, Configuration.resolveEvents, hfamily]
    exact options.warns_of_delay_iff family
  case arguments =>
    intro invocation hinvocation hname
    refine ⟨family.abc9Arguments, by cases family <;> decide, ?_⟩
    have hcommand := Flow.command_of_abc9 ((Script.abc9_mem_iff hmode hname).mp hinvocation) hname
    obtain ⟨command, guard⟩ := invocation
    cases hcommand
    refine Invocation.pieces_arguments (by decide) (by simp) ?_ guard
    rw [List.forall_mem_append, List.forall_mem_cons, List.forall_mem_singleton]
    exact ⟨family.space_not_mem_abc9_arguments, by decide, Text.space_not_mem_decimal _⟩
  case stage =>
    rw [Script.stage_map_luts hmode]
    constructor
    · intro hruns
      exact ⟨_, rfl, hcalls.mpr hruns⟩
    · rintro ⟨stage, hstage, hcalled⟩
      cases hstage
      exact hcalls.mp hcalled

/-- Options that are only explained are warned of what executing them would assume. -/
theorem delay_warning_agrees_with_script_explained :
    let options : Options := { family := some "pp3", top := some "a b", explain := true }
    Configuration.resolve options = .ok (options.configure .pp3) ∧
      (∃ event ∈ Configuration.resolveEvents options, event.WarnsOfDelay) ∧
      ∃ script, { options with explain := false }.script = .ok script ∧
        (∃ invocation ∈ script.invocations, invocation.name = "abc9") ∧
        ∀ invocation ∈ script.invocations, invocation.name = "abc9" →
          ∃ front, "-D" ∉ front ∧
            Text.pieces ' ' invocation.arguments = front ++ ["-D", Text.decimal 500] := by
  intro options
  have hresolve : Configuration.resolve options = .ok (options.configure .pp3) := rfl
  obtain ⟨script, hscript, hwarning, harguments, -⟩ := delay_warning_agrees_with_script hresolve
  have hwarned : ∃ event ∈ Configuration.resolveEvents options, event.WarnsOfDelay :=
    (options.warns_of_delay_iff .pp3).mpr ⟨rfl, rfl⟩
  exact ⟨hresolve, hwarned, script, hscript, (hwarning.mp hwarned).2, harguments⟩

end StagedSynthesis
