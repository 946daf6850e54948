import StagedSynthesis.Proofs.Alternatives
import StagedSynthesis.Proofs.Phases

/-!
# Flip-flops with synchronous reset

A caller may switch off flip-flops with a synchronous set or reset, and a family without them
switches them off by itself. The optimizer must then be told so wherever it is called, and no such
cell may be allowed when flip-flops are legalized. `Script.commands_calling` collects the calls of
an operation from the stages that make any, which gives all calls of the optimizer
(`Script.optimizer_commands`) and the one legalization (`Script.legalizer_commands`). The main
theorem is `sync_reset_is_switched_off_everywhere`.
-/

namespace StagedSynthesis

/-! ## Arguments of a command -/

namespace Text

/-- The arguments of a command: the parts between the spaces behind its operation. -/
def arguments (command : String) : List String :=
  pieces ' ' (operands command)

/-- A command line has the arguments it was made with. Without any it has an empty text only. -/
theorem mem_arguments_iff {name : String} (hname : ' ' ∉ name.toList) {arguments : List String}
    (hspace : ∀ argument ∈ arguments, ' ' ∉ argument.toList) {argument : String}
    (hargument : argument ≠ "") :
    argument ∈ Text.arguments (commandLine name arguments) ↔ argument ∈ arguments := by
  by_cases hempty : arguments = []
  · subst hempty
    have hdropped : name.toList.dropWhile (· ≠ ' ') = [] := by
      have hall : (name.toList ++ []).dropWhile (· ≠ ' ') = [] :=
        List.dropWhile_append_of_pos (ne_space_of_mem hname)
      rwa [List.append_nil] at hall
    have hnone : Text.arguments (commandLine name []) = [""] := by
      rw [commandLine, joined, List.foldl_nil, Text.arguments, operands, hdropped]
      rfl
    simp [hnone, hargument]
  · have hwords : Text.arguments (commandLine name arguments) = arguments :=
      Invocation.pieces_arguments hname hempty hspace .always
    rw [hwords]

/-- The words that stand directly behind a flag. -/
def behind (flag : String) : List String → List String
  | first :: second :: rest =>
      (if first = flag then [second] else []) ++ behind flag (second :: rest)
  | _ => []

/-- A word that is not the flag has nothing directly behind the flag. -/
theorem behind_cons_of_ne {flag first : String} (hne : first ≠ flag) (rest : List String) :
    behind flag (first :: rest) = behind flag rest := by
  cases rest with
  | nil => rfl
  | cons second others => rw [behind, if_neg hne, List.nil_append]

/-- A word stands directly behind a flag in front of it. -/
theorem behind_flag_cons (flag second : String) (rest : List String) :
    behind flag (flag :: second :: rest) = second :: behind flag (second :: rest) := by
  rw [behind, if_pos rfl, List.singleton_append]

end Text

/-- The arguments of an invocation are those of its command. -/
theorem Invocation.pieces_arguments_eq (invocation : Invocation) :
    Text.pieces ' ' invocation.arguments = Text.arguments invocation.command :=
  rfl

/-- Whether an invocation has an argument can be read off its command. -/
theorem map_command_filter_argument (invocations : List Invocation) (argument : String) :
    (invocations.filter fun invocation => argument ∈ Text.pieces ' ' invocation.arguments).map
        Invocation.command =
      (invocations.map Invocation.command).filter fun command =>
        argument ∈ Text.arguments command := by
  rw [List.filter_map]
  refine congrArg (List.map Invocation.command) (List.filter_congr ?_)
  intro invocation _
  rw [Function.comp_apply, decide_eq_decide, Invocation.pieces_arguments_eq]

/-- The cells that a command lists. -/
def Invocation.cells (invocation : Invocation) : List String :=
  Text.behind "-cell" (Text.pieces ' ' invocation.arguments)

namespace StorageCell

/-- A cell whose name and initial value are single arguments and no flags. -/
structure Plain (cell : StorageCell) : Prop where
  nameWord : ' ' ∉ cell.name.toList
  initialWord : ' ' ∉ cell.initial.toList
  name : cell.name ≠ "-cell"
  initial : cell.initial ≠ "-cell"

instance (cell : StorageCell) : Decidable cell.Plain :=
  decidable_of_iff
    ((' ' ∉ cell.name.toList ∧ ' ' ∉ cell.initial.toList) ∧
      cell.name ≠ "-cell" ∧ cell.initial ≠ "-cell")
    ⟨fun h => ⟨h.1.1, h.1.2, h.2.1, h.2.2⟩,
      fun h => ⟨⟨h.nameWord, h.initialWord⟩, h.name, h.initial⟩⟩

/-- The name of a flip-flop with synchronous set or reset. -/
def SyncReset (name : String) : Prop :=
  "$_SDFF".toList <+: name.toList

instance (name : String) : Decidable (SyncReset name) :=
  inferInstanceAs (Decidable (_ <+: _))

/-- What holds of the flag for cells, and of the name and the initial value of each cell, holds of
every argument of a legalization. -/
theorem forall_legalize_argument {property : String → Prop} (hflag : property "-cell")
    {cells : List StorageCell}
    (hcells : ∀ cell ∈ cells, property cell.name ∧ property cell.initial) :
    ∀ argument ∈ cells.flatMap (fun cell => ["-cell", cell.name, cell.initial]),
      property argument := by
  intro argument hargument
  obtain ⟨cell, hcell, hargument⟩ := List.mem_flatMap.mp hargument
  obtain ⟨hname, hinitial⟩ := hcells cell hcell
  simp only [List.mem_cons, List.not_mem_nil, or_false] at hargument
  rcases hargument with rfl | rfl | rfl
  · exact hflag
  · exact hname
  · exact hinitial

/-- The words behind the flag for cells are the names of the cells. -/
theorem behind_legalize_arguments {cells : List StorageCell} (hplain : ∀ cell ∈ cells, cell.Plain) :
    Text.behind "-cell" (cells.flatMap fun cell => ["-cell", cell.name, cell.initial]) =
      cells.map StorageCell.name := by
  induction cells with
  | nil => rfl
  | cons cell rest ih =>
      obtain ⟨hcell, hrest⟩ := List.forall_mem_cons.mp hplain
      rw [List.flatMap_cons, List.map_cons, ← ih hrest]
      show Text.behind "-cell" ("-cell" :: cell.name :: cell.initial :: _) = _
      rw [Text.behind_flag_cons, Text.behind_cons_of_ne hcell.name,
        Text.behind_cons_of_ne hcell.initial]
      rfl

/-- The cells that a legalization lists are those it allows. -/
theorem cells_legalize {cells : List StorageCell} (hcells : cells ≠ [])
    (hplain : ∀ cell ∈ cells, cell.Plain) (guard : Guard) :
    (Invocation.mk (legalizeCommand cells) guard).cells = cells.map StorageCell.name := by
  have hspace : ∀ argument ∈ cells.flatMap (fun cell => ["-cell", cell.name, cell.initial]),
      ' ' ∉ argument.toList :=
    forall_legalize_argument (by decide) fun cell hcell =>
      ⟨(hplain cell hcell).nameWord, (hplain cell hcell).initialWord⟩
  rw [Invocation.cells, legalizeCommand, Invocation.pieces_arguments (by decide) ?_ hspace guard,
    behind_legalize_arguments hplain]
  obtain ⟨cell, rest, rfl⟩ := List.exists_cons_of_ne_nil hcells
  exact List.cons_ne_nil _ _

end StorageCell

/-! ## Calls in the whole script -/

/-- Items that contribute nothing may be left out. -/
theorem flat_map_filter_eq {α β : Type} {items : List α} {test : α → Bool} {f : α → List β}
    (hnone : ∀ item ∈ items, test item = false → f item = []) :
    (items.filter test).flatMap f = items.flatMap f := by
  induction items with
  | nil => rfl
  | cons item rest ih =>
      obtain ⟨hitem, hrest⟩ := List.forall_mem_cons.mp hnone
      rw [List.flatMap_cons, ← ih hrest]
      cases htest : test item with
      | true => rw [List.filter_cons_of_pos htest, List.flatMap_cons]
      | false => rw [List.filter_cons_of_neg (by simp [htest]), hitem htest, List.nil_append]

namespace Script

/-- The invocations of a script that call an operation, in order. -/
def callsOf (script : Script) (name : String) : List Invocation :=
  script.invocations.filter fun invocation => invocation.name = name

/-- The calls of an operation are the invocations with its name. -/
theorem mem_calls_of {script : Script} {name : String} {invocation : Invocation} :
    invocation ∈ script.callsOf name ↔
      invocation ∈ script.invocations ∧ invocation.name = name := by
  rw [callsOf, List.mem_filter, decide_eq_true_eq]

variable {configuration : Configuration} (hmode : configuration.mode = .execute)

include hmode

/-- A stage whose operations do not include a name has no call of it. -/
theorem calling_eq_nil {entry : String × Recipe} (hentry : entry ∈ Flow.plan configuration)
    {name : String} (hname : name ∉ Flow.operationsOf entry.1) :
    entry.2.calling configuration [name] = [] := by
  rw [Recipe.calling, List.filter_eq_nil_iff, ← Recipe.map_command_entered _ _ [],
    List.forall_mem_map]
  intro invocation hinvocation hcalls
  have hstage : Stage.mk entry.1 (entry.2.entered configuration []) ∈
      (build configuration).stages := by
    rw [stages_build_of_execute hmode]
    exact List.mem_map_of_mem hentry
  have hmem := name_mem_operations hstage hinvocation
  rw [decide_eq_true_eq, List.mem_singleton, ← Invocation.name] at hcalls
  exact hname (hcalls ▸ hmem)

/-- The calls of an operation are those of the stages that have it among their operations. -/
theorem commands_calling (name : String) :
    ((build configuration).callsOf name).map Invocation.command =
      ((Flow.plan configuration).filter fun entry => name ∈ Flow.operationsOf entry.1).flatMap
        fun entry => entry.2.calling configuration [name] := by
  have hall : ((build configuration).callsOf name).map Invocation.command =
      (Flow.plan configuration).flatMap fun entry => entry.2.calling configuration [name] := by
    rw [callsOf, invocations, stages_build_of_execute hmode, List.flatMap_map, List.filter_flatMap,
      List.map_flatMap]
    congr 1
    funext entry
    rw [Recipe.calling, ← Recipe.map_command_entered _ _ [], List.filter_map]
    simp only [List.mem_singleton]
    rfl
  rw [hall, flat_map_filter_eq]
  intro entry hentry hname
  exact calling_eq_nil hmode hentry (of_decide_eq_false hname)

end Script

namespace Flow

variable (configuration : Configuration)

open Recipe

/-- The call of the optimizer that is the same for all configurations. -/
def fixedOptimizer : Invocation :=
  ⟨"opt -nodffe -nosdff", .always⟩

/-- What stands in front of the arguments against unwanted flip-flops wherever the optimizer is
called with these, in the order of the calls. -/
def optimizerFronts : List (List String) :=
  [[], [], ["-fast", "-mux_undef", "-undriven", "-fine"], ["-undriven", "-fine"], ["-fast"], [], []]

/-- Preparing a design calls the optimizer once with fixed arguments and once with those of the
configuration. -/
theorem prepare_calling :
    (prepare configuration).calling configuration ["opt"] =
      [fixedOptimizer.command, Text.commandLine "opt" configuration.optimizerArguments] := by
  rw [calling, prepare, commands_block]
  simp only [runIf, List.flatMap_cons, commands_only]
  cases configuration.family <;>
    simp +decide [commands, call, Text.operation_command_line, fixedOptimizer]

/-- Coarse-grained optimization calls the optimizer once. -/
theorem coarse_calling :
    (coarse configuration).calling configuration ["opt"] =
      [Text.commandLine "opt" configuration.optimizerArguments] := by
  rw [calling, coarse, commands_block]
  simp +decide [commands, call, Text.operation_command_line]

/-- Mapping memories onto flip-flops calls the optimizer before and after. -/
theorem ffram_calling :
    (mapFfram configuration).calling configuration ["opt"] =
      [Text.commandLine "opt"
          (["-fast", "-mux_undef", "-undriven", "-fine"] ++ configuration.optimizerArguments),
        Text.commandLine "opt" (["-undriven", "-fine"] ++ configuration.optimizerArguments)] := by
  obtain ⟨command, hcommand, hrecipe⟩ := map_ffram_eq
  rw [calling, hrecipe, commands_block]
  simp +decide [commands, call, Text.operation_command_line, hcommand]

/-- Mapping gates calls the optimizer twice, the first time for a fast pass. -/
theorem gates_calling_opt :
    (mapGates configuration).calling configuration ["opt"] =
      [Text.commandLine "opt" ("-fast" :: configuration.optimizerArguments),
        Text.commandLine "opt" configuration.optimizerArguments] := by
  rw [calling, commands_map_gates]
  cases configuration.family <;> simp +decide [Text.operation_command_line]

/-- Mapping flip-flops calls the optimizer once. -/
theorem ffs_calling_opt :
    (mapFfs configuration).calling configuration ["opt"] =
      [Text.commandLine "opt" configuration.optimizerArguments] := by
  rw [calling, commands_map_ffs]
  cases configuration.family <;> cases configuration.switches.noFfMap <;>
    simp +decide [Text.operation_command_line, StorageCell.operation_legalize,
      Family.shiftRegisterBounds]

end Flow

namespace Script

variable {configuration : Configuration} (hmode : configuration.mode = .execute)

include hmode

/-- A script calls the optimizer once with fixed arguments, and then with those of the configuration
behind different fronts. -/
theorem optimizer_commands :
    ((build configuration).callsOf "opt").map Invocation.command =
      Flow.fixedOptimizer.command :: Flow.optimizerFronts.map fun front =>
        Text.commandLine "opt" (front ++ configuration.optimizerArguments) := by
  have hstages : ((Flow.plan configuration).filter fun entry =>
        "opt" ∈ Flow.operationsOf entry.1) =
      [("prepare", Flow.prepare configuration), ("coarse", Flow.coarse configuration),
        ("map_ffram", Flow.mapFfram configuration), ("map_gates", Flow.mapGates configuration),
        ("map_ffs", Flow.mapFfs configuration)] := by
    rfl
  rw [commands_calling hmode, hstages]
  simp only [List.flatMap_cons, Flow.prepare_calling, Flow.coarse_calling, Flow.ffram_calling,
    Flow.gates_calling_opt, Flow.ffs_calling_opt]
  rfl

/-- A script legalizes flip-flops once, with the storage cells of its configuration. -/
theorem legalizer_commands :
    ((build configuration).callsOf "dfflegalize").map Invocation.command =
      [StorageCell.legalizeCommand configuration.storageCells] := by
  have hstages : ((Flow.plan configuration).filter fun entry =>
        "dfflegalize" ∈ Flow.operationsOf entry.1) =
      [("map_ffs", Flow.mapFfs configuration)] := by
    rfl
  rw [commands_calling hmode, hstages, List.flatMap_singleton, Flow.ffs_calling]

end Script

namespace Configuration

variable (configuration : Configuration)

/-- Each argument of the optimizer is a single word. -/
theorem space_not_mem_optimizer_arguments :
    ∀ argument ∈ configuration.optimizerArguments, ' ' ∉ argument.toList := by
  unfold optimizerArguments
  cases configuration.switches.noSdff <;> cases configuration.family <;> decide

/-- The optimizer is told to infer no synchronous resets exactly if the switch says so. -/
theorem nosdff_mem_optimizer_arguments :
    "-nosdff" ∈ configuration.optimizerArguments ↔ configuration.switches.noSdff = true := by
  simp [optimizerArguments]

/-- The optimizer is told to infer no clock enables for exactly one family. -/
theorem nodffe_mem_optimizer_arguments :
    "-nodffe" ∈ configuration.optimizerArguments ↔ configuration.family = .k4n8 := by
  simp [optimizerArguments]

/-- The names and initial values of the storage cells are single arguments and no flags. -/
theorem storage_cells_plain : ∀ cell ∈ configuration.storageCells, cell.Plain := by
  unfold storageCells
  cases configuration.switches.noSdff <;> cases configuration.family <;> decide

/-- Some storage cell can always be implemented. -/
theorem storage_cells_ne_nil : configuration.storageCells ≠ [] := by
  unfold storageCells
  cases configuration.family <;> exact List.cons_ne_nil _ _

/-- One family has a flip-flop with synchronous reset, unless it is switched off. -/
theorem sync_reset_mem_storage_cells :
    (∃ cell ∈ configuration.storageCells, StorageCell.SyncReset cell.name) ↔
      configuration.family = .k6n10f ∧ configuration.switches.noSdff = false := by
  unfold storageCells
  cases configuration.switches.noSdff <;> cases configuration.family <;> decide

/-- Synchronous reset is off where the caller or the family says so. -/
theorem no_sdff_of_resolve {options : Options} {configuration : Configuration}
    (hresolve : resolve options = .ok configuration) :
    configuration.switches.noSdff = true ↔
      options.switches.noSdff = true ∨ configuration.family.forbidsSyncReset = true := by
  obtain ⟨family, -, rfl⟩ := configured_of_resolve hresolve
  cases family <;>
    simp [Options.configure, Options.effectiveSwitches, Family.forbidsSyncReset, Switches.set]

end Configuration

namespace Flow

/-- The fixed call of the optimizer rules out clock enables and synchronous resets. -/
theorem arguments_fixed_optimizer :
    Text.arguments fixedOptimizer.command = ["-nodffe", "-nosdff"] := by
  decide

/-- What stands in front of the arguments of the optimizer consists of single words. -/
theorem space_not_mem_optimizer_fronts :
    ∀ front ∈ optimizerFronts, ∀ argument ∈ front, ' ' ∉ argument.toList := by
  decide

/-- Wherever the optimizer is called with a front part, it has an argument of the fixed call exactly
if the configuration asks for it. -/
theorem mem_optimizer_arguments_iff (configuration : Configuration) {argument : String}
    (hargument : argument ∈ ["-nodffe", "-nosdff"]) {front : List String}
    (hfront : front ∈ optimizerFronts) :
    argument ∈ Text.arguments (Text.commandLine "opt" (front ++ configuration.optimizerArguments)) ↔
      argument ∈ configuration.optimizerArguments := by
  have hother : ∀ argument ∈ ["-nodffe", "-nosdff"],
      argument ≠ "" ∧ ∀ front ∈ optimizerFronts, argument ∉ front := by
    decide
  obtain ⟨hnonempty, hfronts⟩ := hother argument hargument
  have hspace : ∀ word ∈ front ++ configuration.optimizerArguments, ' ' ∉ word.toList :=
    List.forall_mem_append.mpr ⟨space_not_mem_optimizer_fronts front hfront,
      configuration.space_not_mem_optimizer_arguments⟩
  rw [Text.mem_arguments_iff (by decide) hspace hnonempty, List.mem_append,
    or_iff_right (hfronts front hfront)]

/-- Preparing a design always includes the fixed call of the optimizer. -/
theorem fixed_optimizer_mem_prepare (configuration : Configuration) :
    fixedOptimizer ∈ (prepare configuration).entered configuration [] := by
  rw [prepare, Recipe.entered_block]
  refine List.mem_flatMap.mpr ⟨.run "opt -nodffe -nosdff", by simp, ?_⟩
  exact List.mem_singleton_self _

end Flow

namespace Script

variable {configuration : Configuration} (hmode : configuration.mode = .execute)

include hmode

/-- The stage that prepares a design is found by its label. -/
theorem stage_prepare :
    (build configuration).stage? "prepare" =
      some ⟨"prepare", (Flow.prepare configuration).entered configuration []⟩ :=
  stage_of_mem_plan hmode (by simp [Flow.plan])

/-- An argument against unwanted flip-flops that a configuration asks for stands in every call of
the optimizer. -/
theorem optimizers_have {argument : String} (hargument : argument ∈ ["-nodffe", "-nosdff"])
    (hasked : argument ∈ configuration.optimizerArguments) :
    ∀ invocation ∈ (build configuration).callsOf "opt",
      argument ∈ Text.pieces ' ' invocation.arguments := by
  intro invocation hinvocation
  have hcommand : invocation.command ∈ List.map Invocation.command _ :=
    List.mem_map_of_mem hinvocation
  rw [optimizer_commands hmode] at hcommand
  rw [Invocation.pieces_arguments_eq]
  rcases List.mem_cons.mp hcommand with hfixed | hfront
  · rw [hfixed]
    exact Flow.arguments_fixed_optimizer ▸ hargument
  · obtain ⟨front, hfront, hcommand⟩ := List.mem_map.mp hfront
    rw [← hcommand, Flow.mem_optimizer_arguments_iff configuration hargument hfront]
    exact hasked

/-- Where synchronous reset is wanted, only the fixed call of the optimizer keeps it out. -/
theorem optimizers_with_nosdff (hreset : configuration.switches.noSdff = false) :
    (((build configuration).callsOf "opt").filter fun invocation =>
        "-nosdff" ∈ Text.pieces ' ' invocation.arguments) =
      [Flow.fixedOptimizer] := by
  have hfronts : (Flow.optimizerFronts.map fun front =>
        Text.commandLine "opt" (front ++ configuration.optimizerArguments)).filter
      (fun command => "-nosdff" ∈ Text.arguments command) = [] := by
    rw [List.filter_eq_nil_iff, List.forall_mem_map]
    intro front hfront
    rw [decide_eq_true_eq, Flow.mem_optimizer_arguments_iff configuration (by decide) hfront,
      configuration.nosdff_mem_optimizer_arguments, hreset]
    exact Bool.false_ne_true
  have hfixed : "-nosdff" ∈ Text.arguments Flow.fixedOptimizer.command := by
    rw [Flow.arguments_fixed_optimizer]
    decide
  have hcommands := map_command_filter_argument ((build configuration).callsOf "opt") "-nosdff"
  rw [optimizer_commands hmode, List.filter_cons, hfronts, if_pos (decide_eq_true hfixed)]
    at hcommands
  -- One call is left, and the fixed one of the second stage is among those that are.
  obtain ⟨call, hcall, -⟩ := List.map_eq_singleton_iff.mp hcommands
  have hstage := List.mem_of_find?_eq_some (stage_prepare hmode)
  have hmem : Flow.fixedOptimizer ∈ (build configuration).callsOf "opt" :=
    mem_calls_of.mpr ⟨List.mem_flatMap.mpr
      ⟨_, hstage, Flow.fixed_optimizer_mem_prepare configuration⟩, by decide⟩
  have hsame : Flow.fixedOptimizer ∈ [call] :=
    hcall ▸ List.mem_filter.mpr ⟨hmem, decide_eq_true hfixed⟩
  rw [hcall, List.mem_singleton.mp hsame]

/-- A legalization of the script lists the storage cells of the configuration. -/
theorem cells_of_legalizer {invocation : Invocation}
    (hinvocation : invocation ∈ (build configuration).callsOf "dfflegalize") :
    invocation.cells = configuration.storageCells.map StorageCell.name := by
  have hcommand : invocation.command ∈ List.map Invocation.command _ :=
    List.mem_map_of_mem hinvocation
  rw [legalizer_commands hmode, List.mem_singleton] at hcommand
  obtain ⟨command, guard⟩ := invocation
  cases hcommand
  exact StorageCell.cells_legalize configuration.storage_cells_ne_nil
    configuration.storage_cells_plain guard

/-- Flip-flops with synchronous reset are allowed for the one family that has them, unless they are
switched off. -/
theorem lists_sync_reset_iff :
    (∃ invocation ∈ (build configuration).callsOf "dfflegalize",
        ∃ cell ∈ invocation.cells, StorageCell.SyncReset cell) ↔
      configuration.family = .k6n10f ∧ configuration.switches.noSdff = false := by
  rw [← configuration.sync_reset_mem_storage_cells]
  constructor
  · rintro ⟨invocation, hinvocation, cell, hcell, hsync⟩
    rw [cells_of_legalizer hmode hinvocation] at hcell
    obtain ⟨listed, hlisted, rfl⟩ := List.mem_map.mp hcell
    exact ⟨listed, hlisted, hsync⟩
  · rintro ⟨cell, hcell, hsync⟩
    obtain ⟨call, hcall, -⟩ := List.map_eq_singleton_iff.mp (legalizer_commands hmode)
    have hmem : call ∈ (build configuration).callsOf "dfflegalize" :=
      hcall ▸ List.mem_singleton_self call
    refine ⟨call, hmem, cell.name, ?_, hsync⟩
    rw [cells_of_legalizer hmode hmem]
    exact List.mem_map_of_mem hcell

end Script

/-- Of all options that are resolved for executing: if the caller asks for no synchronous reset or
the family has none, every call of the optimizer is told so and no legalization allows such a cell;
for the family without clock enables, every call of the optimizer is told about these too. Otherwise
one call of the optimizer is told so, the fixed one of the second stage, and such a cell is allowed
exactly for the family that has one. The script calls the optimizer eight times and legalizes
once. -/
theorem sync_reset_is_switched_off_everywhere {options : Options} {configuration : Configuration}
    (hresolve : Configuration.resolve options = .ok configuration)
    (hexecute : options.explain = false) :
    let script := Script.build configuration
    let optimizers := script.callsOf "opt"
    let legalizers := script.callsOf "dfflegalize"
    let unwanted := options.switches.noSdff = true ∨ configuration.family.forbidsSyncReset = true
    let allowed := ∃ invocation ∈ legalizers, ∃ cell ∈ invocation.cells, StorageCell.SyncReset cell
    (optimizers.length = 8 ∧ legalizers.length = 1) ∧
      (unwanted →
        (∀ invocation ∈ optimizers, "-nosdff" ∈ Text.pieces ' ' invocation.arguments) ∧
          ¬ allowed ∧
          (configuration.family = .k4n8 →
            ∀ invocation ∈ optimizers, "-nodffe" ∈ Text.pieces ' ' invocation.arguments)) ∧
      (¬ unwanted →
        (∃ stage, script.stage? "prepare" = some stage ∧
          Flow.fixedOptimizer ∈ stage.invocations) ∧
          (optimizers.filter fun invocation => "-nosdff" ∈ Text.pieces ' ' invocation.arguments) =
            [Flow.fixedOptimizer] ∧
          (allowed ↔ configuration.family = .k6n10f)) := by
  intro script optimizers legalizers unwanted allowed
  have hmode : configuration.mode = .execute := by
    rw [Configuration.mode_of_resolve hresolve, hexecute]
    rfl
  have hswitch : configuration.switches.noSdff = true ↔ unwanted :=
    Configuration.no_sdff_of_resolve hresolve
  have hallowed : allowed ↔
      configuration.family = .k6n10f ∧ configuration.switches.noSdff = false :=
    Script.lists_sync_reset_iff hmode
  refine ⟨⟨?_, ?_⟩, ?_, ?_⟩
  · exact (List.length_map _).symm.trans (congrArg List.length (Script.optimizer_commands hmode))
  · exact (List.length_map _).symm.trans (congrArg List.length (Script.legalizer_commands hmode))
  · intro hunwanted
    have hoff := hswitch.mpr hunwanted
    refine ⟨?_, ?_, ?_⟩
    · exact Script.optimizers_have hmode (by decide)
        (configuration.nosdff_mem_optimizer_arguments.mpr hoff)
    · intro hlisted
      rw [(hallowed.mp hlisted).2] at hoff
      cases hoff
    · intro hfamily
      exact Script.optimizers_have hmode (by decide)
        (configuration.nodffe_mem_optimizer_arguments.mpr hfamily)
  · intro hwanted
    have hon : configuration.switches.noSdff = false :=
      Bool.eq_false_iff.mpr fun hoff => hwanted (hswitch.mp hoff)
    refine ⟨⟨_, Script.stage_prepare hmode, Flow.fixed_optimizer_mem_prepare configuration⟩,
      Script.optimizers_with_nosdff hmode hon, ?_⟩
    rw [hallowed, and_iff_left hon]

/-- A family that forbids synchronous reset without being asked, and one that has it with a top
module whose name looks like the argument. -/
theorem sync_reset_is_switched_off_everywhere_in_turn :
    let forbidding : Options := { family := some "qlf_k4n8", libraryPath := some "my lib" }
    let allowing : Options := { family := some "qlf_k6n10f", top := some "opt -nosdff" }
    let forbidden := Script.build (forbidding.configure .k4n8)
    let allowed := Script.build (allowing.configure .k6n10f)
    (∀ invocation ∈ forbidden.callsOf "opt",
        "-nosdff" ∈ Text.pieces ' ' invocation.arguments ∧
          "-nodffe" ∈ Text.pieces ' ' invocation.arguments) ∧
      ((allowed.callsOf "opt").filter fun invocation =>
          "-nosdff" ∈ Text.pieces ' ' invocation.arguments) = [Flow.fixedOptimizer] ∧
      ∃ invocation ∈ allowed.callsOf "dfflegalize",
        ∃ cell ∈ invocation.cells, StorageCell.SyncReset cell := by
  intro forbidding allowing forbidden allowed
  have hforbidding : Configuration.resolve forbidding = .ok (forbidding.configure .k4n8) := rfl
  have hallowing : Configuration.resolve allowing = .ok (allowing.configure .k6n10f) := rfl
  obtain ⟨-, hoff, -⟩ := sync_reset_is_switched_off_everywhere hforbidding rfl
  obtain ⟨-, -, hon⟩ := sync_reset_is_switched_off_everywhere hallowing rfl
  obtain ⟨hnosdff, -, hnodffe⟩ := hoff (.inr rfl)
  have hwanted : ¬ (allowing.switches.noSdff = true ∨
      (allowing.configure .k6n10f).family.forbidsSyncReset = true) := by
    decide
  obtain ⟨-, hfixed, hlisted⟩ := hon hwanted
  exact ⟨fun invocation hinvocation =>
      ⟨hnosdff invocation hinvocation, hnodffe rfl invocation hinvocation⟩,
    hfixed, hlisted.mpr rfl⟩

end StagedSynthesis
