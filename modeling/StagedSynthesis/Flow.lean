import StagedSynthesis.BlockRam
import StagedSynthesis.Family.FlipFlop
import StagedSynthesis.Family.Multiplier
import StagedSynthesis.Script
import StagedSynthesis.Text.FileName

/-!
# The synthesis flow

The recipe of each of the sixteen stages, from reading the cell library to writing the results.
A recipe names the commands of every family and every combination of switches; which of them a
configuration runs is decided by the guards alone. `Script.build` reads the recipes for one
configuration.
-/

namespace StagedSynthesis.Flow

open Recipe

/-- A command under a condition. -/
def runIf (guard : Guard) (command : String) : Recipe :=
  provided guard (run command)

/-- An operation with arguments under a condition. -/
def callIf (guard : Guard) (name : String) (arguments : List String) : Recipe :=
  provided guard (call name arguments)

/-- The arguments that map by a library file. -/
def mapBy (file : String) : List String :=
  ["-map", file]

/-- The command that reads the simulation models of a family. One family has models of its DSP and
RAM blocks, and of the retyped RAM cells where these are asked for. -/
def readLibrary (configuration : Configuration) (family : Family) (bramTypes : Bool) : Recipe :=
  let directory := configuration.familyDirectory family
  call "read_verilog"
    (["-lib", "-specify", "-nomem2reg", configuration.libraryPath ++ "common/cells_sim.v",
        directory ++ "/cells_sim.v"] ++
      (if family = .k6n10f then
        [directory ++ "/dsp_sim.v", directory ++ "/brams_sim.v"] ++
          if bramTypes then [directory ++ "/bram_types_sim.v"] else []
      else
        []))

/-- Read the library of the family and select the top module. -/
def libraries (configuration : Configuration) : Recipe :=
  block
    [forEach Family.all fun family =>
        if family = .k6n10f then
          block
            [provided (.without .bramTypes) (readLibrary configuration family false),
              provided (.given .bramTypes) (readLibrary configuration family true)]
        else
          readLibrary configuration family false,
      call "hierarchy" ("-check" :: configuration.top.hierarchyArguments)]

/-- Turn processes into logic and clean up. -/
def prepare (configuration : Configuration) : Recipe :=
  block
    [run "proc", run "flatten", runIf (.only .pp3) "tribuf -logic", run "deminout",
      run "opt_expr", run "opt_clean", run "check", run "opt -nodffe -nosdff", run "fsm",
      call "opt" configuration.optimizerArguments, run "wreduce", run "peepopt",
      run "opt_clean", run "share"]

/-- Map multipliers onto the blocks of a family whose mapper takes the block library itself. -/
def mapDspDirectly (configuration : Configuration) (family : Family) : Recipe :=
  block
    [run "memory_dff", run "wreduce t:$mul",
      block (family.multiplierRules.map fun rule =>
        call "techmap"
          (mapBy "+/mul2dsp.v" ++ mapBy (configuration.familyDirectory family ++ "/dsp_map.v") ++
            rule.arguments)),
      run "select a:mul2dsp", run "setattr -unset mul2dsp", run "opt_expr -fine",
      run "wreduce", run "select -clear", run "ql_dsp", run "chtype -set $mul t:$__soft_mul"]

/-- Map multipliers onto the blocks of a family that packs accumulators first and picks the final
block afterwards. -/
def mapDspInSteps (configuration : Configuration) (family : Family) : Recipe :=
  let directory := configuration.familyDirectory family
  block
    [run "wreduce t:$mul",
      runIf (.without .useDspCfgParams) "ql_dsp_macc",
      runIf (.given .useDspCfgParams) "ql_dsp_macc -use_dsp_cfg_params",
      block (family.multiplierRules.map fun rule =>
        block
          [call "techmap" (mapBy "+/mul2dsp.v" ++ rule.arguments),
            run "chtype -set $mul t:$__soft_mul"]),
      callIf (.without .useDspCfgParams) "techmap"
        (mapBy (directory ++ "/dsp_map.v") ++ ["-D", "USE_DSP_CFG_PARAMS=0"]),
      callIf (.given .useDspCfgParams) "techmap"
        (mapBy (directory ++ "/dsp_map.v") ++ ["-D", "USE_DSP_CFG_PARAMS=1"]),
      run "ql_dsp_simd",
      call "techmap" (mapBy (directory ++ "/dsp_final_map.v")),
      run "ql_dsp_io_regs"]

/-- Map multipliers onto DSP blocks. -/
def mapDsp (configuration : Configuration) : Recipe :=
  provided (.without .noDsp)
    (forEach (Family.having Family.hasDsp) fun family =>
      if family = .k6n10 then mapDspDirectly configuration family
      else mapDspInSteps configuration family)

/-- Coarse-grained optimization. -/
def coarse (configuration : Configuration) : Recipe :=
  block
    [run "techmap -map +/cmp2lut.v -D LUT_WIDTH=4", run "opt_expr", run "opt_clean",
      run "alumacc", run "pmuxtree", call "opt" configuration.optimizerArguments,
      run "memory -nomap", run "opt_clean"]

/-- Map memories onto block RAM. -/
def mapBram (configuration : Configuration) : Recipe :=
  provided (.without .noBram)
    (forEach (Family.having Family.hasBram) fun family =>
      let directory := configuration.familyDirectory family
      block
        [if family = .k6n10f then
            block
              [call "memory_libmap" ["-lib", directory ++ "/libmap_brams.txt"],
                run "ql_bram_merge",
                call "techmap" (mapBy (directory ++ "/libmap_brams_map.v"))]
          else
            call "memory_bram" ["-rules", directory ++ "/brams.txt"],
          if family = .pp3 then run "pp3_braminit" else skip,
          call "techmap" ("-autoproc" :: mapBy (directory ++ "/brams_map.v")),
          if family = .k6n10f then
            block
              [call "techmap" (mapBy (directory ++ "/brams_final_map.v")),
                provided (.given .bramTypes) (block (BlockRam.retypeCommands.map run))]
          else
            skip])

/-- Map the remaining memories onto flip-flops. -/
def mapFfram (configuration : Configuration) : Recipe :=
  block
    [call "opt"
        (["-fast", "-mux_undef", "-undriven", "-fine"] ++ configuration.optimizerArguments),
      run ("memory_map -iattr -attr !ram_block -attr !rom_block -attr logic_block " ++
        "-attr syn_ramstyle=auto -attr syn_ramstyle=registers " ++
        "-attr syn_romstyle=auto -attr syn_romstyle=logic"),
      call "opt" (["-undriven", "-fine"] ++ configuration.optimizerArguments)]

/-- Map arithmetic and the remaining coarse cells onto gates. -/
def mapGates (configuration : Configuration) : Recipe :=
  block
    [provided (.without .noAdder)
        (forEach (Family.having Family.hasAdderMap) fun family =>
          call "techmap"
            (mapBy "+/techmap.v" ++
              mapBy (configuration.familyDirectory family ++ "/arith_map.v"))),
      runIf
        (.any [.family (Family.having fun family => !family.hasAdderMap), .given .noAdder])
        "techmap",
      call "opt" ("-fast" :: configuration.optimizerArguments),
      runIf (.only .pp3) "muxcover -mux8 -mux4",
      run "opt_expr", run "opt_merge", run "opt_clean",
      call "opt" configuration.optimizerArguments]

/-- Make every flip-flop one that the family has, and map it onto the library. -/
def mapFfs (configuration : Configuration) : Recipe :=
  block
    [run "opt_expr",
      forEach Family.all fun family =>
        block
          [match family.shiftRegisterBounds with
            | some bounds =>
                call "shregmap"
                  ["-minlen", Text.decimal bounds.least, "-maxlen", Text.decimal bounds.greatest]
            | none => skip,
            if family = .k6n10f then
              block
                [runIf (.without .noSdff)
                    (StorageCell.legalizeCommand (family.legalCells ++ [StorageCell.syncReset])),
                  runIf (.given .noSdff) (StorageCell.legalizeCommand family.legalCells)]
            else
              run (StorageCell.legalizeCommand family.legalCells),
            if family = .pp3 then
              call "techmap" (mapBy (configuration.familyDirectory family ++ "/cells_map.v"))
            else
              skip],
      callIf (.without .noFfMap) "techmap"
        (mapBy "+/techmap.v" ++
          mapBy (configuration.familyDirectory configuration.family ++ "/ffs_map.v")),
      runIf (.only .pp3) "opt_expr -mux_undef",
      run "opt_merge", run "opt_clean", call "opt" configuration.optimizerArguments]

/-- The script of the classic mapper, which reads its lookup tables from a file. -/
def lutScript (definitions : String) : String :=
  "+read_lut," ++ definitions ++
    ";strash;ifraig;scorr;dc2;dretime;strash;dch,-f;if;mfs2;" ++
    "sweep;eliminate;if;mfs;lutpack;dress"

/-- Map logic onto lookup tables for one family. -/
def mapLutsFor (configuration : Configuration) (family : Family) : Recipe :=
  let directory := configuration.familyDirectory family
  let delay := Text.decimal configuration.delay
  match family with
  | .pp3 =>
      block
        [call "techmap" (mapBy (directory ++ "/latches_map.v")),
          provided (.without .noAbc9)
            (block
              [call "read_verilog" ["-lib", "-specify", "-icells", directory ++ "/abc9_model.v"],
                call "techmap" (mapBy (directory ++ "/abc9_map.v")),
                call "abc9" ["-maxlut", "4", "-dff", "-D", delay],
                call "techmap" (mapBy (directory ++ "/abc9_unmap.v"))]),
          callIf (.given .noAbc9) "abc"
            ["-script", lutScript (configuration.sharePath (directory ++ "/lutdefs.txt"))]]
  | .k4n8 => run "abc -lut 4"
  | .k6n10 | .k6n10f =>
      block
        [provided (.without .noAbc9)
            (block
              [call "read_verilog"
                  ["-lib", "-specify", "-icells",
                    configuration.libraryPath ++ "pp3/abc9_model.v"],
                call "abc9" ["-maxlut", "6", "-D", delay]]),
          runIf (.given .noAbc9) "abc -lut 6"]

/-- Map logic onto lookup tables. -/
def mapLuts (configuration : Configuration) : Recipe :=
  block
    [provided (.without .noAbcOpt) (forEach Family.all (mapLutsFor configuration)),
      run "clean", run "opt_lut"]

/-- Turn lookup tables into cells of the family. -/
def mapCells (configuration : Configuration) : Recipe :=
  forEach (Family.having Family.hasLutCellMap) fun family =>
    block
      [call "techmap" (mapBy (configuration.familyDirectory family ++ "/lut_map.v")),
        run "clean"]

/-- Check the mapped design. -/
def check : Recipe :=
  block [run "autoname", run "hierarchy -check", run "stat", run "check -noinit"]

/-- Insert clock buffers and pads. -/
def ioMap : Recipe :=
  provided (.only .pp3)
    (block
      [run "clkbufmap -inpad ckpad Q:P",
        run ("iopadmap -bits -outpad outpad A:P -inpad inpad Q:P " ++
          "-tinoutpad bipad EN:Q:A:P A:top")])

/-- Last changes before the design is written. -/
def finalize : Recipe :=
  block
    [runIf (.only .pp3) "setundef -zero -params -undriven",
      runIf (.any [.only .pp3, .output .edif])
        "hilomap -hicell logic_1 a -locell logic_0 a -singleton A:top",
      run "opt_clean -purge", run "check", run "blackbox =A:whitebox"]

/-- The destination of a format as an argument, or a stand-in for listings where none is set. -/
def destination (configuration : Configuration) (format : OutputFormat) : String :=
  match configuration.output format with
  | some path => Text.fileArgument path
  | none => "<file-name>"

/-- Write the design as BLIF. -/
def blif (configuration : Configuration) : Recipe :=
  callIf (.output .blif) "write_blif" ["-param", destination configuration .blif]

/-- Write the design as EDIF. -/
def edif (configuration : Configuration) : Recipe :=
  provided (.output .edif)
    (block
      [run "splitnets -ports -format ()", run "quicklogic_eqn",
        call "write_ql_edif"
          ["-nogndvcc", "-attrprop", "-pvector", "par", destination configuration .edif]])

/-- Write the design as Verilog. -/
def verilog (configuration : Configuration) : Recipe :=
  callIf (.output .verilog) "write_verilog"
    ["-noattr", "-nohex", destination configuration .verilog]

/-- The stage labels in execution order. They do not depend on the configuration. -/
def stageLabels : List String :=
  ["begin", "prepare", "map_dsp", "coarse", "map_bram", "map_ffram", "map_gates", "map_ffs",
    "map_luts", "map_cells", "check", "iomap", "finalize", "blif", "edif", "verilog"]

/-- The recipe of every stage, in execution order. -/
def plan (configuration : Configuration) : Plan :=
  [("begin", libraries configuration), ("prepare", prepare configuration),
    ("map_dsp", mapDsp configuration), ("coarse", coarse configuration),
    ("map_bram", mapBram configuration), ("map_ffram", mapFfram configuration),
    ("map_gates", mapGates configuration), ("map_ffs", mapFfs configuration),
    ("map_luts", mapLuts configuration), ("map_cells", mapCells configuration),
    ("check", check), ("iomap", ioMap), ("finalize", finalize), ("blif", blif configuration),
    ("edif", edif configuration), ("verilog", verilog configuration)]

/-- The plan has exactly the stage labels. -/
theorem map_fst_plan (configuration : Configuration) :
    (plan configuration).map Prod.fst = stageLabels :=
  rfl

end StagedSynthesis.Flow

namespace StagedSynthesis

/-- The synthesis script of a configuration. -/
def Script.build (configuration : Configuration) : Script :=
  Script.ofPlan configuration (Flow.plan configuration)

/-- Every built script has the stage labels in order, whatever the configuration. -/
theorem Script.labels_build (configuration : Configuration) :
    (Script.build configuration).labels = Flow.stageLabels := by
  rw [Script.build, Script.labels_of_plan, Flow.map_fst_plan]

end StagedSynthesis
