/-!
# Switches

The yes-or-no choices of a synthesis run. A `Switch` names one of them and `Switches` holds the
position of each. Every switch is off until it is set.
-/

namespace StagedSynthesis

/-- The name of one switch. -/
inductive Switch where
  | noAbcOpt
  | noAbc9
  | noDsp
  | useDspCfgParams
  | noAdder
  | noBram
  | bramTypes
  | noFfMap
  | noSdff
  deriving DecidableEq, Repr

namespace Switch

/-- Every switch, in the order in which switches are listed to the user. -/
def all : List Switch :=
  [.noAbcOpt, .noAbc9, .noDsp, .useDspCfgParams, .noAdder, .noBram, .bramTypes, .noFfMap, .noSdff]

/-- The spelling of the switch as an option, without dashes. -/
def optionName : Switch → String
  | .noAbcOpt => "no_abc_opt"
  | .noAbc9 => "no_abc9"
  | .noDsp => "no_dsp"
  | .useDspCfgParams => "use_dsp_cfg_params"
  | .noAdder => "no_adder"
  | .noBram => "no_bram"
  | .bramTypes => "bram_types"
  | .noFfMap => "no_ff_map"
  | .noSdff => "nosdff"

/-- The switch with exactly this spelling. -/
def ofName? (text : String) : Option Switch :=
  all.find? fun switch => switch.optionName = text

/-- The switch as it is written in a condition. -/
def text (switch : Switch) : String :=
  "-" ++ switch.optionName

/-- What the switch does, in one phrase. -/
def help : Switch → String
  | .noAbcOpt => "Turn off ABC logic optimization and LUT mapping"
  | .noAbc9 => "Map LUTs with classic ABC instead of timing-driven ABC9"
  | .noDsp => "Do not use DSP blocks to implement multipliers"
  | .useDspCfgParams => "Configure DSP blocks through module parameters instead of ports"
  | .noAdder => "Do not map arithmetic onto adder cells"
  | .noBram => "Do not map memories onto block RAM"
  | .bramTypes => "Emit specialized BRAM cells per address/data width configuration"
  | .noFfMap => "Skip the flip-flop techmap"
  | .noSdff => "Do not infer synchronous set/reset flip-flops"

/-- No switch is missing from the list. -/
theorem mem_all (switch : Switch) : switch ∈ all := by
  cases switch <;> decide

end Switch

/-- The position of every switch. -/
structure Switches where
  noAbcOpt : Bool := false
  noAbc9 : Bool := false
  noDsp : Bool := false
  useDspCfgParams : Bool := false
  noAdder : Bool := false
  noBram : Bool := false
  bramTypes : Bool := false
  noFfMap : Bool := false
  noSdff : Bool := false
  deriving DecidableEq, Repr

namespace Switches

/-- Whether a switch is on. -/
def get (switches : Switches) : Switch → Bool
  | .noAbcOpt => switches.noAbcOpt
  | .noAbc9 => switches.noAbc9
  | .noDsp => switches.noDsp
  | .useDspCfgParams => switches.useDspCfgParams
  | .noAdder => switches.noAdder
  | .noBram => switches.noBram
  | .bramTypes => switches.bramTypes
  | .noFfMap => switches.noFfMap
  | .noSdff => switches.noSdff

/-- The same positions except that one switch is put to `on`. -/
def set (switches : Switches) (switch : Switch) (on : Bool) : Switches :=
  match switch with
  | .noAbcOpt => { switches with noAbcOpt := on }
  | .noAbc9 => { switches with noAbc9 := on }
  | .noDsp => { switches with noDsp := on }
  | .useDspCfgParams => { switches with useDspCfgParams := on }
  | .noAdder => { switches with noAdder := on }
  | .noBram => { switches with noBram := on }
  | .bramTypes => { switches with bramTypes := on }
  | .noFfMap => { switches with noFfMap := on }
  | .noSdff => { switches with noSdff := on }

/-- The switches that are on, in listing order. -/
def active (switches : Switches) : List Switch :=
  Switch.all.filter switches.get

/-- Setting a switch decides that switch and no other. -/
@[simp]
theorem get_set (switches : Switches) (changed asked : Switch) (on : Bool) :
    (switches.set changed on).get asked = if asked = changed then on else switches.get asked := by
  cases changed <;> cases asked <;> rfl

end Switches

end StagedSynthesis
