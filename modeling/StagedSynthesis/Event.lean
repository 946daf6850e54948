import StagedSynthesis.Family
import StagedSynthesis.Output
import StagedSynthesis.Switch
import StagedSynthesis.Text.Quoted

/-!
# Events

What a run tells its log. An event is data; `Event.level` and `Event.message` say how it is
written.
-/

namespace StagedSynthesis

/-- The module at the root of the design. -/
inductive TopModule where
  | automatic
  | named (name : String)
  deriving DecidableEq, Repr

namespace TopModule

/-- The arguments that select this root in the hierarchy command. -/
def hierarchyArguments : TopModule → List String
  | .automatic => ["-auto-top"]
  | .named name => ["-top", name]

/-- The root as it is described in the log. -/
def description : TopModule → String
  | .automatic => "Auto"
  | .named name => "Named(" ++ Text.quoted name ++ ")"

end TopModule

/-- What is done with the commands of a script. -/
inductive Mode where
  /-- Keep the commands whose condition holds, and run them. -/
  | execute
  /-- Keep every command with its condition, and run none. -/
  | explain
  deriving DecidableEq, Repr

/-- The name of the mode in the log. -/
def Mode.name : Mode → String
  | .execute => "Execute"
  | .explain => "Explain"

/-- The positions of all switches as they are described in the log. -/
def Switches.description (switches : Switches) : String :=
  "Flags \x7b " ++
    Text.joined ", " (Switch.all.map fun switch =>
      switch.optionName ++ ": " ++ if switches.get switch then "true" else "false") ++
    " \x7d"

/-- How much an event matters. -/
inductive Level where
  | debug
  | info
  | warn
  deriving DecidableEq, Repr

/-- The name of the level in the log. -/
def Level.name : Level → String
  | .debug => "DEBUG"
  | .info => "INFO"
  | .warn => "WARN"

/-- Something that a run tells its log. -/
inductive Event where
  /-- Synchronous set and reset were switched off because the family has none. -/
  | syncResetForcedOff (family : Family)
  /-- No delay target was given although the timing-driven mapper will run. -/
  | delayAssumed (picoseconds : Nat)
  /-- Options were resolved. -/
  | resolved (family : Family) (top : TopModule) (switches : Switches)
  /-- A run over the stages from `first` to `last` begins. -/
  | runStarted (first last : String) (mode : Mode)
  /-- The run reaches a stage. -/
  | stageStarted (label : String)
  /-- A command is about to be invoked. -/
  | invoking (command : String)
  /-- A recording invoker fails on purpose at this call. -/
  | failureInjected (call : Nat)
  deriving DecidableEq, Repr

namespace Event

/-- How much the event matters. -/
def level : Event → Level
  | .syncResetForcedOff _ | .invoking _ => .debug
  | .delayAssumed _ => .warn
  | .resolved _ _ _ | .runStarted _ _ _ | .stageStarted _ | .failureInjected _ => .info

/-- The text of the event in the log. -/
def message : Event → String
  | .syncResetForcedOff family =>
      "family " ++ family.name ++
        " has no synchronous set/reset flip-flops; forcing -nosdff"
  | .delayAssumed picoseconds =>
      "delay target has not been set; assuming 12 MHz clock (" ++ Text.decimal picoseconds ++
        " ps)"
  | .resolved family top switches =>
      "resolved configuration; family: " ++ family.name ++ " top: " ++ top.description ++
        " flags: " ++ switches.description
  | .runStarted first last mode =>
      "running stages " ++ first ++ ".." ++ last ++ " (" ++ mode.name ++ ")"
  | .stageStarted label => "stage " ++ label
  | .invoking command => "invoking: " ++ command
  | .failureInjected call => "injecting failure at operation " ++ Text.decimal call

end Event

end StagedSynthesis
