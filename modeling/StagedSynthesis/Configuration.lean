import StagedSynthesis.Event
import StagedSynthesis.Problem

/-!
# Configuration

Options as a caller gives them, and the configuration they are resolved into. Resolving fails only
on an unknown family name. Otherwise every setting is filled in: the default family, library path
and delay target, the closing slash of the library path, and the switch that a family without
synchronous reset forces on.
-/

namespace StagedSynthesis

/-- Settings as a caller gives them; `none` leaves a setting to its default. -/
structure Options where
  family : Option String := none
  top : Option String := none
  switches : Switches := {}
  outputs : Outputs := {}
  libraryPath : Option String := none
  shareDirectory : Option String := none
  delay : Option Nat := none
  explain : Bool := false
  deriving DecidableEq, Repr

/-- The settings from which a script is built. -/
structure Configuration where
  family : Family
  top : TopModule
  switches : Switches
  outputs : Outputs
  libraryPath : String
  shareDirectory : Option String
  delay : Nat
  mode : Mode
  deriving DecidableEq, Repr

/-- The library root used when none is given. -/
def defaultLibraryPath : String :=
  "+/quicklogic/"

/-- The delay target in picoseconds used when none is given. -/
def defaultDelay : Nat :=
  500

/-- Whether lookup tables of the family are mapped by the timing-driven mapper. -/
def runsAbc9 (family : Family) (switches : Switches) : Bool :=
  !switches.noAbcOpt && !switches.noAbc9 && family.mapsLutsWithAbc9

/-- The path with a closing slash, which is added only where it is missing. -/
def closedPath (path : String) : String :=
  if path.toList.getLast? = some '/' then path else path ++ "/"

namespace Options

/-- The family that the options name. -/
def targetFamily (options : Options) : Except Problem Family :=
  match options.family with
  | none => .ok Family.default
  | some name =>
      match Family.ofName? name with
      | some family => .ok family
      | none => .error (.unknownFamily name)

/-- The switches after a family without synchronous reset has forced its switch on. -/
def effectiveSwitches (options : Options) (family : Family) : Switches :=
  if family.forbidsSyncReset then options.switches.set .noSdff true else options.switches

/-- The configuration of the options for a family. -/
def configure (options : Options) (family : Family) : Configuration where
  family := family
  top := match options.top with
    | some name => .named name
    | none => .automatic
  switches := options.effectiveSwitches family
  outputs := options.outputs
  libraryPath := closedPath (options.libraryPath.getD defaultLibraryPath)
  shareDirectory := options.shareDirectory
  delay := options.delay.getD defaultDelay
  mode := if options.explain then .explain else .execute

/-- The events of configuring the options for a family, in order. -/
def configureEvents (options : Options) (family : Family) : List Event :=
  let configuration := options.configure family
  (if family.forbidsSyncReset && !options.switches.noSdff then
    [.syncResetForcedOff family]
  else
    []) ++
    (if options.delay.isNone && runsAbc9 family configuration.switches then
      [.delayAssumed defaultDelay]
    else
      []) ++
    [.resolved family configuration.top configuration.switches]

end Options

namespace Configuration

/-- The configuration that the options describe. -/
def resolve (options : Options) : Except Problem Configuration :=
  options.targetFamily.map options.configure

/-- The events of resolving the options. Options that are rejected cause none. -/
def resolveEvents (options : Options) : List Event :=
  match options.targetFamily with
  | .ok family => options.configureEvents family
  | .error _ => []

/-- Whether a switch is on. -/
def switch (configuration : Configuration) (switch : Switch) : Bool :=
  configuration.switches.get switch

/-- The destination of an output format. -/
def output (configuration : Configuration) (format : OutputFormat) : Option String :=
  configuration.outputs.get format

/-- The directory with the library files of a family. -/
def familyDirectory (configuration : Configuration) (family : Family) : String :=
  configuration.libraryPath ++ family.name

/-- The arguments that keep the optimizer from introducing flip-flops that the family cannot
implement. -/
def optimizerArguments (configuration : Configuration) : List String :=
  (if configuration.switches.noSdff then ["-nosdff"] else []) ++
    (if configuration.family = .k4n8 then ["-nodffe"] else [])

/-- A path with a leading `+/` taken from the share directory, where one is known, for tools that
do not read that notation. -/
def sharePath (configuration : Configuration) (path : String) : String :=
  match configuration.shareDirectory, path.toList with
  | some directory, '+' :: '/' :: rest =>
      String.ofList (directory.toList.reverse.dropWhile (· = '/')).reverse ++ "/" ++
        String.ofList rest
  | _, _ => path

end Configuration

end StagedSynthesis
