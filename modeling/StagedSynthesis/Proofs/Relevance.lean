import Mathlib.Tactic.MkIffOfInductiveProp
import StagedSynthesis.Proofs.Annotation
import StagedSynthesis.Proofs.Operations

/-!
# Settings that have an effect

Not every setting matters to every family: a switch for DSP blocks does nothing where there are
none, and a delay target nothing where the timing-driven mapper does not run.
`Configuration.SameEffect` lists what matters. These settings determine the script
(`SameTarget.build_eq`), and they can be told from its commands (`SameTarget.same_effect`). The
main theorem, `settings_take_effect_exactly`, concludes which change of a single setting leaves the
script as it is.
-/

namespace StagedSynthesis

namespace Configuration

/-- Two configurations with the same target differ at most in their switches, their delay target
and their share directory. -/
structure SameTarget (one other : Configuration) : Prop where
  family : one.family = other.family
  top : one.top = other.top
  outputs : one.outputs = other.outputs
  libraryPath : one.libraryPath = other.libraryPath
  mode : one.mode = other.mode

/-- The file with the lookup tables of the classic mapper, as that mapper is told of it. -/
def lutTables (configuration : Configuration) : String :=
  configuration.sharePath (configuration.familyDirectory .pp3 ++ "/lutdefs.txt")

/-- Two configurations agree in all settings that have an effect for the family of the first, as
long as the settings on which this depends in turn have the same positions. -/
@[mk_iff]
structure SameEffect (one other : Configuration) : Prop where
  noSdff : one.switch .noSdff = other.switch .noSdff
  noFfMap : one.switch .noFfMap = other.switch .noFfMap
  bramTypes : one.family = .k6n10f → one.switch .bramTypes = other.switch .bramTypes
  noBram : one.family.hasBram = true → one.switch .noBram = other.switch .noBram
  noAdder : one.family.hasAdderMap = true → one.switch .noAdder = other.switch .noAdder
  noDsp : one.family.hasDsp = true → one.switch .noDsp = other.switch .noDsp
  useDspCfgParams : one.family = .k6n10f → one.switch .noDsp = false →
    one.switch .useDspCfgParams = other.switch .useDspCfgParams
  noAbcOpt : one.switch .noAbcOpt = other.switch .noAbcOpt
  noAbc9 : one.family ≠ .k4n8 → one.switch .noAbcOpt = false →
    one.switch .noAbc9 = other.switch .noAbc9
  delay : one.family ≠ .k4n8 → one.switch .noAbcOpt = false → one.switch .noAbc9 = false →
    one.delay = other.delay
  lutTables : one.family = .pp3 → one.switch .noAbcOpt = false → one.switch .noAbc9 = true →
    one.lutTables = other.lutTables

end Configuration

/-! ## What a script reads -/

namespace Recipe

section

variable {one other : Configuration} (hfamily : one.family = other.family)
include hfamily

/-- A recipe is entered in the same way where its conditions hold in the same way. -/
theorem Scoped.entered_eq {recipe : Recipe}
    (h : recipe.Scoped fun guard => guard.holds one = guard.holds other) (scope : List Guard) :
    recipe.entered one scope = recipe.entered other scope := by
  induction recipe generalizing scope with
  | skip => rfl
  | run command => rfl
  | followed first second ihFirst ihSecond =>
      rw [entered, entered, ihFirst h.1, ihSecond h.2]
  | provided guard body ih => rw [entered, entered, h.1, ih h.2]
  | forEach families body ih =>
      rw [entered, entered, hfamily]
      refine List.flatMap_congr ?_
      intro family hmem
      rw [ih family (h family hmem).2]

/-- A switch in front of a part for capable families matters only if the family is capable. -/
theorem entered_without_having_eq {which : Switch} {capable : Family → Bool}
    {body : Family → Recipe}
    (hswitch : capable one.family = true → one.switch which = other.switch which)
    (hbody : capable one.family = true → one.switch which = false →
      (body one.family).Scoped fun guard => guard.holds one = guard.holds other)
    (scope : List Guard) :
    (provided (.without which) (forEach (Family.having capable) body)).entered one scope =
      (provided (.without which) (forEach (Family.having capable) body)).entered other scope := by
  rw [entered_without, entered_without, entered_for_each_having, entered_for_each_having,
    ← hfamily]
  by_cases hcapable : capable one.family = true
  · rw [if_pos hcapable, if_pos hcapable, ← hswitch hcapable]
    cases hwhich : one.switch which with
    | true => rfl
    | false => exact (hbody hcapable hwhich).entered_eq hfamily _
  · rw [if_neg hcapable, if_neg hcapable, ite_self, ite_self]

end

end Recipe

namespace Flow

open Recipe

section

variable {one other : Configuration} (htarget : one.SameTarget other)
include htarget

/-- Configurations with the same target have the same directories for families. -/
theorem family_directory_eq : one.familyDirectory = other.familyDirectory := by
  funext family
  rw [Configuration.familyDirectory, Configuration.familyDirectory, htarget.libraryPath]

variable (h : one.SameEffect other)
include h

/-- The optimizer gets the same arguments where the effective settings agree. -/
theorem optimizer_arguments_eq : one.optimizerArguments = other.optimizerArguments := by
  have hswitch : one.switches.noSdff = other.switches.noSdff := h.noSdff
  rw [Configuration.optimizerArguments, Configuration.optimizerArguments, hswitch, htarget.family]

/-- The same models are read where the effective settings agree. -/
theorem entered_libraries_eq :
    (libraries one).entered one [] = (libraries other).entered other [] := by
  have hrecipe : libraries one = libraries other := by
    simp only [libraries, readLibrary, family_directory_eq htarget, htarget.libraryPath,
      htarget.top]
  rw [← hrecipe]
  unfold libraries
  simp only [entered_block, List.flatMap_cons, entered_for_each_all, ← htarget.family]
  congr 1
  refine Scoped.entered_eq htarget.family ?_ _
  split
  · next hfamily =>
    simp [scoped_block, Scoped, readLibrary, scoped_call, Guard.holds_without, Guard.holds_given,
      h.bramTypes hfamily]
  · exact scoped_call _ _ _

/-- Multipliers are mapped in the same way where the effective settings agree. -/
theorem entered_map_dsp_eq :
    (mapDsp one).entered one [] = (mapDsp other).entered other [] := by
  have hrecipe : mapDsp one = mapDsp other := by
    simp only [mapDsp, mapDspDirectly, mapDspInSteps, family_directory_eq htarget]
  rw [← hrecipe]
  refine entered_without_having_eq htarget.family h.noDsp ?_ []
  intro hdsp hused
  split
  · simp [mapDspDirectly, scoped_block, Scoped, scoped_call]
  · next hsteps =>
    have hfamily : one.family = .k6n10f := by
      cases hfamily : one.family with
      | k6n10f => rfl
      | k6n10 => exact absurd hfamily hsteps
      | pp3 | k4n8 => rw [hfamily] at hdsp; cases hdsp
    simp [mapDspInSteps, runIf, callIf, scoped_block, Scoped, scoped_call, Guard.holds_without,
      Guard.holds_given, h.useDspCfgParams hfamily hused]

/-- Memories are mapped in the same way where the effective settings agree. -/
theorem entered_map_bram_eq :
    (mapBram one).entered one [] = (mapBram other).entered other [] := by
  have hrecipe : mapBram one = mapBram other := by
    simp only [mapBram, family_directory_eq htarget]
  rw [← hrecipe]
  refine entered_without_having_eq htarget.family h.noBram ?_ []
  intro _ _
  cases hfamily : one.family with
  | k6n10f => simp [scoped_block, Scoped, scoped_call, Guard.holds_given, h.bramTypes hfamily]
  | pp3 | k4n8 | k6n10 => simp [scoped_block, Scoped, scoped_call]

/-- Gates are mapped in the same way where the effective settings agree. -/
theorem entered_map_gates_eq :
    (mapGates one).entered one [] = (mapGates other).entered other [] := by
  have hrecipe : mapGates one = mapGates other := by
    simp only [mapGates, optimizer_arguments_eq htarget h, family_directory_eq htarget]
  rw [← hrecipe]
  unfold mapGates
  rw [block, entered, entered]
  congr 1
  · exact entered_without_having_eq htarget.family h.noAdder (fun _ _ => scoped_call _ _ _) []
  · refine Scoped.entered_eq htarget.family ?_ []
    have hplain : (Guard.any [.family (Family.having fun family => !family.hasAdderMap),
          .given .noAdder]).holds one =
        (Guard.any [.family (Family.having fun family => !family.hasAdderMap),
          .given .noAdder]).holds other := by
      simp only [Guard.holds, Guard.anyHolds, Guard.holds_given, ← htarget.family,
        List.contains_eq_mem, Family.mem_having]
      cases hadders : one.family.hasAdderMap with
      | true => rw [h.noAdder hadders]
      | false => rfl
    simp [runIf, scoped_block, Scoped, scoped_call, Guard.holds_only, htarget.family, hplain]

/-- Flip-flops are mapped in the same way where the effective settings agree. -/
theorem entered_map_ffs_eq :
    (mapFfs one).entered one [] = (mapFfs other).entered other [] := by
  have hrecipe : mapFfs one = mapFfs other := by
    simp only [mapFfs, optimizer_arguments_eq htarget h, family_directory_eq htarget,
      htarget.family]
  rw [← hrecipe]
  refine Scoped.entered_eq htarget.family ?_ []
  simp [mapFfs, runIf, callIf, scoped_block, Scoped, scoped_call, Guard.holds_without,
    Guard.holds_given, Guard.holds_only, htarget.family, Family.all, Family.shiftRegisterBounds,
    h.noSdff, h.noFfMap]

/-- Lookup tables are mapped in the same way where the effective settings agree. -/
theorem entered_map_luts_eq :
    (mapLuts one).entered one [] = (mapLuts other).entered other [] := by
  simp only [mapLuts, entered_block, List.flatMap_cons, entered_without, entered_for_each_all,
    ← htarget.family, ← h.noAbcOpt]
  congr 1
  cases hopt : one.switch .noAbcOpt with
  | true => rfl
  | false =>
      have hmapper := fun hfamily => h.noAbc9 hfamily hopt
      have hdelay := fun hfamily => h.delay hfamily hopt
      have htables := fun hfamily => h.lutTables hfamily hopt
      cases hfamily : one.family with
      | k4n8 => rfl
      | pp3 =>
          have hfamily' : one.family ≠ .k4n8 := by rw [hfamily]; decide
          simp only [Configuration.lutTables, ← family_directory_eq htarget] at htables
          simp only [mapLutsFor, callIf, entered_block, List.flatMap_cons, entered_without,
            entered_given, ← hmapper hfamily', ← family_directory_eq htarget]
          cases hmap : one.switch .noAbc9 with
          | true => rw [htables hfamily hmap]; rfl
          | false => rw [hdelay hfamily' hmap]; rfl
      | k6n10 | k6n10f =>
          have hfamily' : one.family ≠ .k4n8 := by rw [hfamily]; decide
          simp only [mapLutsFor, runIf, entered_block, List.flatMap_cons, entered_without,
            entered_given, ← hmapper hfamily', ← htarget.libraryPath]
          cases hmap : one.switch .noAbc9 with
          | true => rfl
          | false => rw [hdelay hfamily' hmap]; rfl

/-- Each stage keeps the same invocations where the effective settings agree. -/
theorem entered_plan_eq :
    ((plan one).map fun entry => Stage.mk entry.1 (entry.2.entered one [])) =
      (plan other).map fun entry => Stage.mk entry.1 (entry.2.entered other []) := by
  have hfamily := htarget.family
  have hscoped (recipe : Recipe)
      (hrecipe : recipe.Scoped fun guard => guard.holds one = guard.holds other) :
      recipe.entered one [] = recipe.entered other [] :=
    hrecipe.entered_eq hfamily []
  have houtput : one.output = other.output := by
    funext format
    rw [Configuration.output, Configuration.output, htarget.outputs]
  have hprepare : prepare one = prepare other := by
    simp only [prepare, optimizer_arguments_eq htarget h]
  have hcoarse : coarse one = coarse other := by
    simp only [coarse, optimizer_arguments_eq htarget h]
  have hffram : mapFfram one = mapFfram other := by
    simp only [mapFfram, optimizer_arguments_eq htarget h]
  have hcells : mapCells one = mapCells other := by
    simp only [mapCells, family_directory_eq htarget]
  have hdestination : destination one = destination other := by
    funext format
    rw [destination, destination, houtput]
  have hblif : blif one = blif other := by rw [blif, blif, hdestination]
  have hedif : edif one = edif other := by rw [edif, edif, hdestination]
  have hverilog : verilog one = verilog other := by rw [verilog, verilog, hdestination]
  simp only [plan, List.map_cons, List.map_nil, entered_libraries_eq htarget h,
    entered_map_dsp_eq htarget h, entered_map_bram_eq htarget h, entered_map_gates_eq htarget h,
    entered_map_ffs_eq htarget h, entered_map_luts_eq htarget h, hprepare, hcoarse, hffram, hcells,
    hblif, hedif, hverilog]
  simp only [List.cons.injEq, Stage.mk.injEq, true_and, and_true]
  refine ⟨hscoped _ ?_, hscoped _ ?_, hscoped _ ?_, hscoped _ ?_, hscoped _ ?_, hscoped _ ?_,
    hscoped _ ?_, hscoped _ ?_, hscoped _ ?_, hscoped _ ?_⟩ <;>
  simp [prepare, coarse, mapFfram, mapCells, check, ioMap, finalize, blif, edif, verilog, runIf,
    callIf, scoped_block, Scoped, scoped_call, Guard.holds_only, Guard.holds, Guard.anyHolds,
    hfamily, houtput]

end

end Flow

/-- A script is determined by the target and the effective settings. -/
theorem Configuration.SameTarget.build_eq {one other : Configuration}
    (htarget : one.SameTarget other) (hmode : one.mode = .execute) (h : one.SameEffect other) :
    Script.build one = Script.build other := by
  have hmode' : other.mode = .execute := by rw [← htarget.mode, hmode]
  have hstages : (Script.build one).stages = (Script.build other).stages := by
    rw [Script.stages_build_of_execute hmode, Script.stages_build_of_execute hmode',
      Flow.entered_plan_eq htarget h]
  calc Script.build one = ⟨one.mode, (Script.build one).stages⟩ := rfl
    _ = ⟨other.mode, (Script.build other).stages⟩ := by rw [hstages, htarget.mode]
    _ = Script.build other := rfl

/-! ## What can be told from a script -/

namespace Text

/-- Every argument makes a command longer. -/
theorem length_command_line_append (name : String) (front more : List String) :
    (commandLine name front).length + more.length ≤
      (commandLine name (front ++ more)).length := by
  induction more generalizing front with
  | nil => simp
  | cons argument rest ih =>
      have hnext := ih (front ++ [argument])
      rw [List.append_assoc, command_line_concat, String.length_append,
        String.length_append] at hnext
      simp only [List.cons_append, List.nil_append, List.length_cons] at hnext ⊢
      have hspace : " ".length = 1 := rfl
      omega

/-- A command with further arguments is another command. -/
theorem command_line_append_ne (name : String) (front : List String) {more : List String}
    (hmore : more ≠ []) :
    commandLine name (front ++ more) ≠ commandLine name front := by
  intro h
  have hlength := length_command_line_append name front more
  have hpositive := List.length_pos_iff.mpr hmore
  rw [h] at hlength
  omega

end Text

namespace Recipe

variable {one other : Configuration} {which : Switch}

/-- What a switch decides between tells its position, if its two sides cannot be mistaken for each
other. -/
theorem switch_eq_of_ite {α : Type} {on on' off off' : α} (hone : on ≠ off') (hother : off ≠ on')
    (h : (if one.switch which then on else off) = if other.switch which then on' else off') :
    one.switch which = other.switch which := by
  cases hwhich : one.switch which <;> cases hwhich' : other.switch which <;>
    simp only [hwhich, hwhich', if_true, Bool.false_eq_true, if_false] at h
  · rfl
  · exact absurd h hother
  · exact absurd h hone
  · rfl

/-- Whether a part is run tells the position of the switch in front of it. -/
theorem switch_eq_of_commands {body changed : Recipe}
    (hbody : body.commands one ≠ []) (hchanged : changed.commands other ≠ [])
    (h : (provided (.without which) body).commands one =
      (provided (.without which) changed).commands other) :
    one.switch which = other.switch which := by
  rw [commands_without, commands_without] at h
  exact switch_eq_of_ite hchanged.symm hbody h

end Recipe

namespace Flow

open Recipe

/-- The script of the classic mapper tells from which file it reads its lookup tables. -/
theorem lut_script_injective : Function.Injective lutScript := by
  intro one other h
  rwa [lutScript, lutScript, String.append_left_inj, String.append_left_inj,
    String.append_right_inj] at h

/-- Unless mapping onto lookup tables is switched off, it runs the commands of the configured family
in front of the two that clean up. -/
theorem commands_map_luts (configuration : Configuration) :
    (mapLuts configuration).commands configuration =
      (if configuration.switch .noAbcOpt then []
        else (mapLutsFor configuration configuration.family).commands configuration) ++
        ["clean", "opt_lut"] := by
  simp only [mapLuts, commands_block, List.flatMap_cons, commands_without, commands_for_each_all]
  rfl

/-- The first family maps with timing by default, and otherwise gives the classic mapper a script.
-/
theorem commands_map_luts_for_pp3 (configuration : Configuration) :
    (mapLutsFor configuration .pp3).commands configuration =
      let directory := configuration.familyDirectory .pp3
      Text.commandLine "techmap" (mapBy (directory ++ "/latches_map.v")) ::
        if configuration.switch .noAbc9 then
          [Text.commandLine "abc" ["-script", lutScript configuration.lutTables]]
        else
          [Text.commandLine "read_verilog"
              ["-lib", "-specify", "-icells", directory ++ "/abc9_model.v"],
            Text.commandLine "techmap" (mapBy (directory ++ "/abc9_map.v")),
            Text.commandLine "abc9"
              ["-maxlut", "4", "-dff", "-D", Text.decimal configuration.delay],
            Text.commandLine "techmap" (mapBy (directory ++ "/abc9_unmap.v"))] := by
  simp only [mapLutsFor, callIf, commands_block, List.flatMap_cons, commands_without,
    commands_given]
  cases configuration.switch .noAbc9 <;> rfl

/-- The families with six inputs map with timing by default, and otherwise by number of inputs. -/
theorem commands_map_luts_for_k6 (configuration : Configuration) {family : Family}
    (hfamily : family = .k6n10 ∨ family = .k6n10f) :
    (mapLutsFor configuration family).commands configuration =
      if configuration.switch .noAbc9 then ["abc -lut 6"]
      else
        [Text.commandLine "read_verilog"
            ["-lib", "-specify", "-icells", configuration.libraryPath ++ "pp3/abc9_model.v"],
          Text.commandLine "abc9" ["-maxlut", "6", "-D", Text.decimal configuration.delay]] := by
  rcases hfamily with rfl | rfl <;>
    simp only [mapLutsFor, runIf, commands_block, List.flatMap_cons, commands_without,
      commands_given] <;>
    cases configuration.switch .noAbc9 <;> rfl

/-- Every family has a command that maps onto lookup tables. -/
theorem lut_commands_ne_nil (configuration : Configuration) :
    (forEach Family.all (mapLutsFor configuration)).commands configuration ≠ [] := by
  rw [commands_for_each_all]
  cases hfamily : configuration.family with
  | pp3 | k4n8 => exact List.cons_ne_nil _ _
  | k6n10 | k6n10f =>
      rw [commands_map_luts_for_k6 _ (by decide)]
      cases configuration.switch .noAbc9 <;> exact List.cons_ne_nil _ _

variable {one other : Configuration} (htarget : one.SameTarget other)
include htarget

/-- Coarse-grained optimization tells whether synchronous resets may be inferred. -/
theorem no_sdff_of_commands (h : (coarse one).commands one = (coarse other).commands other) :
    one.switch .noSdff = other.switch .noSdff := by
  have hopt : Text.commandLine "opt" one.optimizerArguments =
      Text.commandLine "opt" other.optimizerArguments :=
    Option.some.inj (congrArg (fun commands => commands[5]?) h)
  rw [Configuration.optimizerArguments, Configuration.optimizerArguments, ← htarget.family] at hopt
  show one.switches.noSdff = other.switches.noSdff
  cases hone : one.switches.noSdff <;> cases hother : other.switches.noSdff <;>
    rw [hone, hother] at hopt <;> cases hfamily : one.family <;> rw [hfamily] at hopt <;>
    revert hopt <;> decide

/-- The models that are read tell whether block RAMs are typed. -/
theorem bram_types_of_commands (hfamily : one.family = .k6n10f)
    (h : (libraries one).commands one = (libraries other).commands other) :
    one.switch .bramTypes = other.switch .bramTypes := by
  have hread (configuration : Configuration) (hfamily : configuration.family = .k6n10f) :
      ((libraries configuration).commands configuration)[0]? =
        let directory := configuration.familyDirectory .k6n10f
        let front := ["-lib", "-specify", "-nomem2reg",
          configuration.libraryPath ++ "common/cells_sim.v", directory ++ "/cells_sim.v",
          directory ++ "/dsp_sim.v", directory ++ "/brams_sim.v"]
        some (if configuration.switch .bramTypes then
            Text.commandLine "read_verilog" (front ++ [directory ++ "/bram_types_sim.v"])
          else
            Text.commandLine "read_verilog" front) := by
    simp only [libraries, commands_block, List.flatMap_cons, commands_for_each_all, hfamily,
      if_true, commands_without, commands_given]
    cases configuration.switch .bramTypes <;> rfl
  have hcommand := congrArg (fun commands => commands[0]?) h
  simp only [hread one hfamily, hread other (htarget.family ▸ hfamily), Option.some.injEq,
    ← htarget.libraryPath, ← family_directory_eq htarget] at hcommand
  refine switch_eq_of_ite ?_ (Ne.symm ?_) hcommand <;>
    exact Text.command_line_append_ne _ _ (List.cons_ne_nil _ _)

/-- The stage for multipliers tells whether they are mapped. -/
theorem no_dsp_of_commands (hdsp : one.family.hasDsp = true)
    (h : (mapDsp one).commands one = (mapDsp other).commands other) :
    one.switch .noDsp = other.switch .noDsp := by
  refine switch_eq_of_commands ?_ ?_ h <;>
  simp only [commands_for_each_having, ← htarget.family, hdsp, if_true] <;>
  split <;> exact List.cons_ne_nil _ _

/-- The stage for memories tells whether they are mapped. -/
theorem no_bram_of_commands (hbram : one.family.hasBram = true)
    (h : (mapBram one).commands one = (mapBram other).commands other) :
    one.switch .noBram = other.switch .noBram := by
  refine switch_eq_of_commands ?_ ?_ h <;>
  simp only [commands_for_each_having, ← htarget.family, hbram, if_true] <;>
  cases one.family <;> exact List.cons_ne_nil _ _

/-- The mapping of multipliers tells how the blocks are configured. -/
theorem use_dsp_cfg_params_of_commands (hfamily : one.family = .k6n10f)
    (hused : one.switch .noDsp = false) (hused' : other.switch .noDsp = false)
    (h : (mapDsp one).commands one = (mapDsp other).commands other) :
    one.switch .useDspCfgParams = other.switch .useDspCfgParams := by
  have hmacc (configuration : Configuration) (hfamily : configuration.family = .k6n10f)
      (hused : configuration.switch .noDsp = false) :
      ((mapDsp configuration).commands configuration)[1]? =
        some (if configuration.switch .useDspCfgParams then "ql_dsp_macc -use_dsp_cfg_params"
          else "ql_dsp_macc") := by
    rw [mapDsp, commands_without, hused, commands_for_each_having, hfamily]
    simp only [mapDspInSteps, reduceCtorEq, if_false, runIf, commands_block, List.flatMap_cons,
      commands_without, commands_given]
    cases configuration.switch .useDspCfgParams <;> rfl
  have hcommand := congrArg (fun commands => commands[1]?) h
  simp only [hmacc one hfamily hused, hmacc other (htarget.family ▸ hfamily) hused',
    Option.some.injEq] at hcommand
  exact switch_eq_of_ite (by decide) (by decide) hcommand

/-- The mapping of gates tells whether carry chains are used. -/
theorem no_adder_of_commands (hadder : one.family.hasAdderMap = true)
    (h : (mapGates one).commands one = (mapGates other).commands other) :
    one.switch .noAdder = other.switch .noAdder := by
  have htechmap (configuration : Configuration) (hadder : configuration.family.hasAdderMap = true) :
      ((mapGates configuration).commands configuration)[0]? =
        some (if configuration.switch .noAdder then "techmap"
          else Text.commandLine "techmap" (mapBy "+/techmap.v" ++
              mapBy (configuration.familyDirectory configuration.family ++ "/arith_map.v"))) := by
    simp only [mapGates, runIf, commands_block, List.flatMap_cons, commands_without,
      commands_for_each_having, if_pos hadder]
    cases hplain : configuration.switch .noAdder with
    | true => simp [commands, Guard.holds, Guard.anyHolds, Guard.holds_given, hplain]
    | false => rfl
  have hcommand := congrArg (fun commands => commands[0]?) h
  simp only [htechmap one hadder, htechmap other (htarget.family ▸ hadder),
    Option.some.injEq, ← htarget.family, ← family_directory_eq htarget] at hcommand
  have hlonger : Text.commandLine "techmap" (mapBy "+/techmap.v" ++
      mapBy (one.familyDirectory one.family ++ "/arith_map.v")) ≠ "techmap" :=
    Text.command_line_append_ne "techmap" [] (List.cons_ne_nil _ _)
  exact switch_eq_of_ite hlonger.symm hlonger hcommand

/-- The mapping of flip-flops tells whether they become cells of the family. -/
theorem no_ff_map_of_commands (h : (mapFfs one).commands one = (mapFfs other).commands other) :
    one.switch .noFfMap = other.switch .noFfMap := by
  have hlength (configuration : Configuration) :
      ((mapFfs configuration).commands configuration).length =
        (if configuration.family = .pp3 then 7
          else if configuration.family = .k6n10 then 5 else 6) +
          if configuration.switch .noFfMap then 0 else 1 := by
    simp only [mapFfs, callIf, runIf, commands_block, List.flatMap_cons, commands_for_each_all,
      commands_without, commands_only]
    cases hfamily : configuration.family with
    | k6n10f =>
        simp only [if_true, commands_block, List.flatMap_cons, commands_without, commands_given]
        cases configuration.switch .noFfMap <;> cases configuration.switch .noSdff <;> rfl
    | pp3 | k4n8 | k6n10 => cases configuration.switch .noFfMap <;> rfl
  have hcount := congrArg List.length h
  rw [hlength, hlength, ← htarget.family, Nat.add_left_cancel_iff] at hcount
  exact switch_eq_of_ite (by decide) (by decide) hcount

omit htarget in
/-- The stage for lookup tables tells whether logic is mapped. -/
theorem no_abc_opt_of_commands (h : (mapLuts one).commands one = (mapLuts other).commands other) :
    one.switch .noAbcOpt = other.switch .noAbcOpt := by
  refine switch_eq_of_commands (lut_commands_ne_nil one) (lut_commands_ne_nil other) ?_
  exact List.append_cancel_right h

/-- The mapping of logic tells which mapper is used, where a family has both. -/
theorem no_abc9_of_commands (hfamily : one.family ≠ .k4n8)
    (hopt : one.switch .noAbcOpt = false) (hopt' : other.switch .noAbcOpt = false)
    (h : (mapLuts one).commands one = (mapLuts other).commands other) :
    one.switch .noAbc9 = other.switch .noAbc9 := by
  have hlength (configuration : Configuration) (hfamily : configuration.family ≠ .k4n8)
      (hopt : configuration.switch .noAbcOpt = false) :
      ((mapLuts configuration).commands configuration).length =
        (if configuration.family = .pp3 then 4 else 3) +
          if configuration.switch .noAbc9 then 0
          else if configuration.family = .pp3 then 3 else 1 := by
    simp only [commands_map_luts, hopt]
    cases hbase : configuration.family with
    | k4n8 => exact absurd hbase hfamily
    | pp3 =>
        rw [commands_map_luts_for_pp3]
        cases configuration.switch .noAbc9 <;> rfl
    | k6n10 | k6n10f =>
        rw [commands_map_luts_for_k6 _ (by decide)]
        cases configuration.switch .noAbc9 <;> rfl
  have hcount := congrArg List.length h
  rw [hlength one hfamily hopt, hlength other (htarget.family ▸ hfamily) hopt', ← htarget.family,
    Nat.add_left_cancel_iff] at hcount
  have hmore : 0 ≠ if one.family = .pp3 then 3 else 1 := by
    split <;> decide
  exact switch_eq_of_ite hmore hmore.symm hcount

/-- The mapping with timing tells the delay target. -/
theorem delay_of_commands (hfamily : one.family ≠ .k4n8)
    (hopt : one.switch .noAbcOpt = false) (hopt' : other.switch .noAbcOpt = false)
    (hmap : one.switch .noAbc9 = false) (hmap' : other.switch .noAbc9 = false)
    (h : (mapLuts one).commands one = (mapLuts other).commands other) :
    one.delay = other.delay := by
  have hdelay (name : String) (front : List String)
      (hcommand : Text.commandLine name (front ++ [Text.decimal one.delay]) =
        Text.commandLine name (front ++ [Text.decimal other.delay])) : one.delay = other.delay := by
    rw [Text.command_line_concat, Text.command_line_concat, String.append_right_inj] at hcommand
    exact Text.decimal_injective hcommand
  simp only [commands_map_luts, hopt, hopt', ← htarget.family] at h
  cases hbase : one.family with
  | k4n8 => exact absurd hbase hfamily
  | pp3 =>
      simp only [hbase, commands_map_luts_for_pp3, hmap, hmap'] at h
      exact hdelay "abc9" ["-maxlut", "4", "-dff", "-D"]
        (Option.some.inj (congrArg (fun commands => commands[3]?) h))
  | k6n10 | k6n10f =>
      rw [hbase, commands_map_luts_for_k6 _ (by decide), commands_map_luts_for_k6 _ (by decide),
        hmap, hmap'] at h
      exact hdelay "abc9" ["-maxlut", "6", "-D"]
        (Option.some.inj (congrArg (fun commands => commands[1]?) h))

/-- The classic mapping of the first family tells where the lookup tables are read from. -/
theorem lut_tables_of_commands (hfamily : one.family = .pp3)
    (hopt : one.switch .noAbcOpt = false) (hopt' : other.switch .noAbcOpt = false)
    (hmap : one.switch .noAbc9 = true) (hmap' : other.switch .noAbc9 = true)
    (h : (mapLuts one).commands one = (mapLuts other).commands other) :
    one.lutTables = other.lutTables := by
  simp only [commands_map_luts, hopt, hopt', ← htarget.family, hfamily,
    commands_map_luts_for_pp3, hmap, hmap'] at h
  have hscript : Text.commandLine "abc" (["-script"] ++ [lutScript one.lutTables]) =
      Text.commandLine "abc" (["-script"] ++ [lutScript other.lutTables]) :=
    Option.some.inj (congrArg (fun commands => commands[1]?) h)
  rw [Text.command_line_concat, Text.command_line_concat, String.append_right_inj] at hscript
  exact lut_script_injective hscript

end Flow

/-- The effective settings can be told from the commands of a script. -/
theorem Configuration.SameTarget.same_effect {one other : Configuration}
    (htarget : one.SameTarget other) (hmode : one.mode = .execute)
    (h : (Script.build one).stages.map Stage.commands =
      (Script.build other).stages.map Stage.commands) :
    one.SameEffect other := by
  have hmode' : other.mode = .execute := by rw [← htarget.mode, hmode]
  rw [Script.build, Script.build, Script.map_commands_of_plan, Script.map_commands_of_plan] at h
  simp only [Script.commands_kept_of_execute hmode, Script.commands_kept_of_execute hmode',
    Flow.plan, List.map_cons, List.cons.injEq] at h
  obtain ⟨hlibraries, -, hdsp, hcoarse, hbram, -, hgates, hffs, hluts, -⟩ := h
  have hnoAbcOpt := Flow.no_abc_opt_of_commands hluts
  have hnoAbc9 (hfamily : one.family ≠ .k4n8) (hopt : one.switch .noAbcOpt = false) :=
    Flow.no_abc9_of_commands htarget hfamily hopt (hnoAbcOpt ▸ hopt) hluts
  exact
    { noSdff := Flow.no_sdff_of_commands htarget hcoarse
      noFfMap := Flow.no_ff_map_of_commands htarget hffs
      bramTypes := fun hfamily => Flow.bram_types_of_commands htarget hfamily hlibraries
      noBram := fun hcapable => Flow.no_bram_of_commands htarget hcapable hbram
      noAdder := fun hcapable => Flow.no_adder_of_commands htarget hcapable hgates
      noDsp := fun hcapable => Flow.no_dsp_of_commands htarget hcapable hdsp
      useDspCfgParams := by
        intro hfamily hused
        have hsame := Flow.no_dsp_of_commands htarget (by rw [hfamily]; rfl) hdsp
        exact Flow.use_dsp_cfg_params_of_commands htarget hfamily hused (hsame ▸ hused) hdsp
      noAbcOpt := hnoAbcOpt
      noAbc9 := hnoAbc9
      delay := by
        intro hfamily hopt hmap
        exact Flow.delay_of_commands htarget hfamily hopt (hnoAbcOpt ▸ hopt) hmap
          (hnoAbc9 hfamily hopt ▸ hmap) hluts
      lutTables := by
        intro hfamily hopt hmap
        have hsame := hnoAbc9 (by rw [hfamily]; decide) hopt
        exact Flow.lut_tables_of_commands htarget hfamily hopt (hnoAbcOpt ▸ hopt) hmap
          (hsame ▸ hmap) hluts }

/-! ## Changes of one setting -/

namespace Options

/-- Two options values have scripts that are the same exactly if a condition holds. Where they are
not, already their commands differ. -/
def AgreeExactlyIf (one other : Options) (condition : Prop) : Prop :=
  ∃ first second : Script, one.script = .ok first ∧ other.script = .ok second ∧
    (first = second ↔ condition) ∧
    (first.stages.map Stage.commands = second.stages.map Stage.commands ↔ condition)

/-- Options agree exactly where their scripts are the same. -/
theorem AgreeExactlyIf.script_eq_iff {one other : Options} {condition : Prop}
    (h : one.AgreeExactlyIf other condition) : one.script = other.script ↔ condition := by
  obtain ⟨first, second, hone, hother, hscript, -⟩ := h
  rw [hone, hother, Except.ok.injEq, hscript]

/-- Where the effective settings agree exactly under a condition, so do the scripts. -/
theorem agree_exactly_if {one other : Options} {family : Family} {condition : Prop}
    (h : (one.configure family).SameEffect (other.configure family) ↔ condition)
    (htarget : (one.configure family).SameTarget (other.configure family))
    (hone : one.targetFamily = .ok family) (hother : other.targetFamily = .ok family)
    (hexecute : one.explain = false) :
    one.AgreeExactlyIf other condition := by
  have hmode : (one.configure family).mode = .execute := by
    rw [configure, hexecute]
    rfl
  refine ⟨_, _, script_of_family hone, script_of_family hother, ?_, ?_⟩
  · rw [← h]
    refine ⟨fun hscript => ?_, htarget.build_eq hmode⟩
    exact htarget.same_effect hmode (by rw [hscript])
  · rw [← h]
    refine ⟨htarget.same_effect hmode, fun heffect => ?_⟩
    rw [htarget.build_eq hmode heffect]

/-- The options with one switch put to its other position. -/
def toggled (options : Options) (switch : Switch) : Options :=
  { options with switches := options.switches.set switch (!options.switches.get switch) }

/-- Configuring keeps every switch, except that some families force synchronous resets off. -/
theorem switch_configure (options : Options) (family : Family) (asked : Switch) :
    (options.configure family).switch asked =
      if asked = .noSdff ∧ family.forbidsSyncReset = true then true
      else options.switches.get asked := by
  rw [Configuration.switch, configure, effectiveSwitches]
  cases family.forbidsSyncReset <;> simp

/-- Configuring keeps every switch but the one for synchronous resets. -/
theorem switch_configure_of_ne (options : Options) (family : Family) {asked : Switch}
    (hasked : asked ≠ .noSdff) :
    (options.configure family).switch asked = options.switches.get asked := by
  rw [switch_configure, if_neg fun h => hasked h.1]

end Options

/-- The position of a switch has no effect on what is run for the family, given the positions of the
other switches. -/
def Switch.Inert (family : Family) (switches : Switches) : Switch → Prop
  | .bramTypes => family ≠ .k6n10f
  | .useDspCfgParams => family ≠ .k6n10f ∨ switches.noDsp = true
  | .noDsp => family.hasDsp = false
  | .noBram => family.hasBram = false
  | .noAdder => family.hasAdderMap = false
  | .noAbc9 => family = .k4n8 ∨ switches.noAbcOpt = true
  | .noSdff => family = .k4n8
  | .noAbcOpt | .noFfMap => False

/-- Toggling a switch changes no effective setting exactly where the switch is inert. -/
theorem Options.same_effect_toggled_iff (options : Options) (family : Family) (switch : Switch) :
    (options.configure family).SameEffect ((options.toggled switch).configure family) ↔
      switch.Inert family options.switches := by
  have hdelay : ((options.toggled switch).configure family).delay =
    (options.configure family).delay := rfl
  have htables : ((options.toggled switch).configure family).lutTables =
    (options.configure family).lutTables := rfl
  have hfamily : (options.configure family).family = family := rfl
  rw [Configuration.sameEffect_iff, hdelay, htables, hfamily]
  simp only [switch_configure, toggled, Switches.get_set]
  cases switch <;> cases family <;>
    simp [Switch.Inert, Family.hasDsp, Family.hasBram, Family.hasAdderMap, Family.forbidsSyncReset,
      Switches.get]

/-- With the same switches, only the delay target and the lookup tables are left to differ. -/
theorem Configuration.same_effect_iff_of_switches {one other : Configuration}
    (hswitches : one.switches = other.switches) :
    one.SameEffect other ↔
      (one.family ≠ .k4n8 → one.switch .noAbcOpt = false → one.switch .noAbc9 = false →
        one.delay = other.delay) ∧
      (one.family = .pp3 → one.switch .noAbcOpt = false → one.switch .noAbc9 = true →
        one.lutTables = other.lutTables) := by
  have hswitch : other.switch = one.switch := by
    funext asked
    rw [switch, switch, hswitches]
  rw [sameEffect_iff, hswitch]
  simp

/-- Another delay target changes no effective setting exactly where the mapper with timing does not
run. -/
theorem Options.same_effect_delay_iff (options : Options) (family : Family)
    {one other : Option Nat} (hdiffer : one.getD defaultDelay ≠ other.getD defaultDelay) :
    ({ options with delay := one }.configure family).SameEffect
        ({ options with delay := other }.configure family) ↔
      options.switches.noAbcOpt = true ∨ options.switches.noAbc9 = true ∨ family = .k4n8 := by
  refine (Configuration.same_effect_iff_of_switches (by rfl)).trans ?_
  rw [switch_configure_of_ne _ _ (by decide), switch_configure_of_ne _ _ (by decide)]
  constructor
  · rintro ⟨hdelay, -⟩
    by_contra hruns
    simp only [not_or, Bool.not_eq_true] at hruns
    obtain ⟨hopt, hmap, hfamily⟩ := hruns
    exact hdiffer (hdelay hfamily hopt hmap)
  · intro hunused
    refine ⟨fun hfamily hopt hmap => ?_, fun _ _ _ => rfl⟩
    rcases hunused with h | h | h
    · exact absurd (h.symm.trans hopt) (by decide)
    · exact absurd (h.symm.trans hmap) (by decide)
    · exact absurd h hfamily

/-! ### The share directory -/

/-- What stands in front of the slash where a path with a leading `+/` is taken from the share
directory. -/
def shareRoot : Option String → String
  | none => "+"
  | some directory => String.ofList (directory.toList.reverse.dropWhile (· = '/')).reverse

namespace Configuration

/-- A path with a leading `+/` is taken from the share directory, without slashes at its end. -/
theorem share_path_eq (configuration : Configuration) {path : String} {rest : List Char}
    (hpath : path.toList = '+' :: '/' :: rest) :
    configuration.sharePath path =
      shareRoot configuration.shareDirectory ++ "/" ++ String.ofList rest := by
  cases hshare : configuration.shareDirectory with
  | none =>
      have hplain : path = "+" ++ "/" ++ String.ofList rest := by
        rw [← String.toList_inj, hpath]
        simp
      simp only [sharePath, hshare]
      exact hplain
  | some directory => simp only [sharePath, hshare, hpath, shareRoot]

/-- A path without a leading `+/` is used as it is. -/
theorem share_path_eq_self (configuration : Configuration) {path : String}
    (hpath : ¬ "+/".toList <+: path.toList) : configuration.sharePath path = path := by
  unfold sharePath
  split
  · next rest _ hlist =>
    refine absurd ?_ hpath
    rw [hlist]
    exact ⟨rest, rfl⟩
  · rfl

/-- The lookup tables of two configurations with the same library are told of in the same way,
unless that library is a part of the share directory and these differ. -/
theorem lut_tables_eq_iff {one other : Configuration}
    (hpath : one.libraryPath = other.libraryPath) :
    one.lutTables = other.lutTables ↔
      ("+/".toList <+: one.libraryPath.toList →
        shareRoot one.shareDirectory = shareRoot other.shareDirectory) := by
  have hdirectory : one.familyDirectory .pp3 ++ "/lutdefs.txt" =
      other.familyDirectory .pp3 ++ "/lutdefs.txt" := by
    rw [familyDirectory, familyDirectory, hpath]
  have hfile : (one.familyDirectory .pp3 ++ "/lutdefs.txt").toList =
      one.libraryPath.toList ++ "pp3/lutdefs.txt".toList := by
    simp [familyDirectory, Family.name]
  rw [lutTables, lutTables, ← hdirectory]
  by_cases hshare : "+/".toList <+: one.libraryPath.toList
  · obtain ⟨rest, hrest⟩ := hshare
    have hlist : (one.familyDirectory .pp3 ++ "/lutdefs.txt").toList =
        '+' :: '/' :: (rest ++ "pp3/lutdefs.txt".toList) := by
      rw [hfile, ← hrest]
      rfl
    rw [share_path_eq _ hlist, share_path_eq _ hlist, String.append_left_inj,
      String.append_left_inj]
    exact ⟨fun h _ => h, fun h => h ⟨rest, hrest⟩⟩
  · have hnone : ¬ "+/".toList <+: (one.familyDirectory .pp3 ++ "/lutdefs.txt").toList := by
      rw [hfile]
      generalize one.libraryPath.toList = library at hshare
      rcases library with _ | ⟨first, _ | ⟨second, rest⟩⟩
      · decide
      · simp
      · simpa [List.cons_prefix_cons] using hshare
    rw [share_path_eq_self _ hnone, share_path_eq_self _ hnone]
    exact iff_of_true rfl fun h => absurd h hshare

end Configuration

/-- Another share directory changes no effective setting exactly where the classic mapper does not
read its lookup tables from there. -/
theorem Options.same_effect_share_iff (options : Options) (family : Family)
    (one other : Option String) :
    ({ options with shareDirectory := one }.configure family).SameEffect
        ({ options with shareDirectory := other }.configure family) ↔
      shareRoot one = shareRoot other ∨
        ¬ (family = .pp3 ∧ options.switches.noAbc9 = true ∧ options.switches.noAbcOpt = false ∧
          "+/".toList <+: (options.configure family).libraryPath.toList) := by
  refine (Configuration.same_effect_iff_of_switches (by rfl)).trans ?_
  rw [Configuration.lut_tables_eq_iff (by rfl), switch_configure_of_ne _ _ (by decide),
    switch_configure_of_ne _ _ (by decide)]
  constructor
  · rintro ⟨-, htables⟩
    by_cases hread : family = .pp3 ∧ options.switches.noAbc9 = true ∧
        options.switches.noAbcOpt = false ∧
        "+/".toList <+: (options.configure family).libraryPath.toList
    · obtain ⟨hfamily, hmap, hopt, hpath⟩ := hread
      exact .inl (htables hfamily hopt hmap hpath)
    · exact .inr hread
  · intro h
    refine ⟨fun _ _ _ => rfl, fun hfamily hopt hmap hpath => ?_⟩
    rcases h with h | h
    · exact h
    · exact absurd ⟨hfamily, hmap, hopt, hpath⟩ h

/-- For all options that are resolved for executing, a change of one setting leaves the script as
it is exactly where the setting has no effect: a switch where it is inert, the delay target where
the timing-driven mapper does not run, and the share directory where the classic mapper does not
read its lookup tables from there. -/
theorem settings_take_effect_exactly {options : Options} {configuration : Configuration}
    (hresolve : Configuration.resolve options = .ok configuration)
    (hexecute : options.explain = false) :
    (∀ switch : Switch,
      options.AgreeExactlyIf (options.toggled switch)
        (switch.Inert configuration.family options.switches)) ∧
    (∀ one other : Option Nat, one.getD defaultDelay ≠ other.getD defaultDelay →
      Options.AgreeExactlyIf { options with delay := one } { options with delay := other }
        (options.switches.noAbcOpt = true ∨ options.switches.noAbc9 = true ∨
          configuration.family = .k4n8)) ∧
    ∀ one other : Option String,
      Options.AgreeExactlyIf { options with shareDirectory := one }
        { options with shareDirectory := other }
        (shareRoot one = shareRoot other ∨
          ¬ (configuration.family = .pp3 ∧ options.switches.noAbc9 = true ∧
            options.switches.noAbcOpt = false ∧
            "+/".toList <+: configuration.libraryPath.toList)) := by
  obtain ⟨family, hfamily, rfl⟩ := Configuration.configured_of_resolve hresolve
  refine ⟨?_, ?_, ?_⟩
  · intro switch
    exact Options.agree_exactly_if (options.same_effect_toggled_iff family switch)
      ⟨rfl, rfl, rfl, rfl, rfl⟩ hfamily hfamily hexecute
  · intro one other hdiffer
    exact Options.agree_exactly_if (options.same_effect_delay_iff family hdiffer)
      ⟨rfl, rfl, rfl, rfl, rfl⟩ hfamily hfamily hexecute
  · intro one other
    exact Options.agree_exactly_if (options.same_effect_share_iff family one other)
      ⟨rfl, rfl, rfl, rfl, rfl⟩ hfamily hfamily hexecute

/-- Classic mapping for the first family, with the library in the share directory: the switch for
DSP blocks and the delay target have no effect, the switch for block RAM has one, and of the share
directory everything but slashes at its end. -/
theorem settings_take_effect_exactly_classic :
    let options : Options :=
      { family := some "pp3", switches := { noAbc9 := true }, libraryPath := some "+/lib" }
    Configuration.resolve options = .ok (options.configure .pp3) ∧ options.explain = false ∧
      options.script = (options.toggled .noDsp).script ∧
      options.script ≠ (options.toggled .noBram).script ∧
      { options with delay := none }.script = { options with delay := some 250 }.script ∧
      { options with shareDirectory := some "/share//" }.script =
        { options with shareDirectory := some "/share" }.script ∧
      { options with shareDirectory := none }.script ≠
        { options with shareDirectory := some "/share" }.script := by
  intro options
  have hresolve : Configuration.resolve options = .ok (options.configure .pp3) := rfl
  obtain ⟨htoggled, hdelay, hshare⟩ := settings_take_effect_exactly hresolve rfl
  refine ⟨hresolve, rfl, ?_, ?_, ?_, ?_, ?_⟩
  · exact (htoggled .noDsp).script_eq_iff.mpr rfl
  · exact mt (htoggled .noBram).script_eq_iff.mp (show Family.pp3.hasBram ≠ false by decide)
  · exact (hdelay none (some 250) (by decide)).script_eq_iff.mpr (.inr (.inl rfl))
  · exact (hshare (some "/share//") (some "/share")).script_eq_iff.mpr (.inl (by decide))
  · exact mt (hshare none (some "/share")).script_eq_iff.mp (by decide)

end StagedSynthesis
