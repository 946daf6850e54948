import StagedSynthesis.Configuration

/-!
# Command-line arguments

What the arguments of the program ask for. An option is written `--name value` or `--name=value`, a
switch `--name`; neither may be given twice. A value that is an argument of its own must not look
like an option. After `--` every argument is an input.
-/

namespace StagedSynthesis.CommandLine

/-- What a synthesis command asks for. -/
structure SynthRequest where
  top : Option String := none
  family : Option String := none
  libraryPath : Option String := none
  delay : Option Nat := none
  range : Option String := none
  switches : Switches := {}
  outputs : Outputs := {}
  explain : Bool := false
  checkpoint : Option String := none
  scriptFile : Option String := none
  inputs : List String := []
  deriving DecidableEq, Repr

/-- What the program is asked to do. -/
inductive Request where
  | version
  | stages
  | families
  | synth (request : SynthRequest)
  /-- No command was given. -/
  | nothing
  deriving DecidableEq, Repr

/-- The meaning of the arguments. -/
inductive Reading where
  /-- The arguments break a rule. -/
  | rejected
  /-- The name and version of the program are asked for. -/
  | showVersion
  /-- Help is asked for. -/
  | showHelp
  /-- A request, with the settings file to use if one is named. -/
  | request (toolchain : Option String) (request : Request)
  deriving DecidableEq, Repr

/-- The shape of one argument. -/
inductive Argument where
  /-- Two dashes alone. -/
  | separator
  /-- An option of one letter, or several in a row, of which the first is given. -/
  | short (letter : Char)
  /-- An option by name, and the value behind an equals sign if there is one. -/
  | long (name : String) (value : Option String)
  /-- Anything else, a single dash included. -/
  | word (text : String)
  deriving DecidableEq, Repr

/-- The shape of an argument. -/
def Argument.ofText (text : String) : Argument :=
  match text.toList with
  | ['-', '-'] => .separator
  | '-' :: '-' :: body =>
      let name := String.ofList (body.takeWhile (· ≠ '='))
      match body.dropWhile (· ≠ '=') with
      | [] => .long name none
      | _ :: value => .long name (some (String.ofList value))
  | '-' :: letter :: _ => .short letter
  | _ => .word text

/-- The value of an option: what stands behind the equals sign, or the next argument if that is a
word. The arguments after the value are returned with it. -/
def valueOf? : Option String → List String → Option (String × List String)
  | some value, rest => some (value, rest)
  | none, next :: rest =>
      match Argument.ofText next with
      | .word value => some (value, rest)
      | _ => none
  | none, [] => none

/-- Taking a value leaves no more arguments than there were. -/
theorem length_le_of_value_of {attached : Option String} {rest after : List String}
    {value : String} (found : valueOf? attached rest = some (value, after)) :
    after.length ≤ rest.length := by
  revert found
  fun_cases valueOf? attached rest with
  | case1 given rest =>
      intro found
      cases found
      exact Nat.le_refl _
  | case2 next rest word hword =>
      intro found
      cases found
      exact Nat.le_succ _
  | case3 next rest hword =>
      intro found
      cases found
  | case4 =>
      intro found
      cases found

/-- A delay target: decimal digits with an optional sign that denote a number of 32 bits. -/
def delayOf? (text : String) : Option Nat :=
  let (negative, digits) := match text.toList with
    | '-' :: digits => (true, digits)
    | '+' :: digits => (false, digits)
    | digits => (false, digits)
  if digits.isEmpty || !digits.all Char.isDigit then none
  else
    let number := digits.foldl (fun number c => 10 * number + (c.toNat - '0'.toNat)) 0
    if (negative && number ≠ 0) || UInt32.size ≤ number then none else some number

namespace SynthRequest

/-- The request with a switch turned on, if there is such a switch and it is still off. -/
def turnOn? (request : SynthRequest) (name : String) : Option SynthRequest :=
  if name = "explain" then
    if request.explain then none else some { request with explain := true }
  else
    match Switch.ofName? name with
    | none => none
    | some switch =>
        if request.switches.get switch then none
        else some { request with switches := request.switches.set switch true }

/-- A value for a setting that has none yet. -/
def setOnce? {α : Type} (old : Option α) (value : α) : Option (Option α) :=
  if old.isSome then none else some (some value)

/-- The request with an option set, if there is such an option and it is not set yet. -/
def set? (request : SynthRequest) (name value : String) : Option SynthRequest :=
  match name with
  | "top" => (setOnce? request.top value).map fun top => { request with top := top }
  | "family" =>
      (setOnce? request.family value).map fun family => { request with family := family }
  | "lib_path" =>
      (setOnce? request.libraryPath value).map fun path => { request with libraryPath := path }
  | "abc9_delay_ps" => do
      let delay ← setOnce? request.delay (← delayOf? value)
      some { request with delay := delay }
  | "run" => (setOnce? request.range value).map fun range => { request with range := range }
  | "checkpoint" =>
      (setOnce? request.checkpoint value).map fun path => { request with checkpoint := path }
  | "script_out" =>
      (setOnce? request.scriptFile value).map fun path => { request with scriptFile := path }
  | _ =>
      match OutputFormat.ofName? name with
      | none => none
      | some format =>
          (setOnce? (request.outputs.get format) value).map fun path =>
            { request with outputs := request.outputs.set format path }

/-- The request with one more input. -/
def addInput (request : SynthRequest) (input : String) : SynthRequest :=
  { request with inputs := request.inputs ++ [input] }

/-- Whether a name is that of a switch. -/
def isSwitch (name : String) : Bool :=
  name = "explain" || (Switch.ofName? name).isSome

end SynthRequest

/-- The arguments of a command that takes none. -/
def readNone (toolchain : Option String) (request : Request) : List String → Reading
  | [] => .request toolchain request
  | first :: rest =>
      match Argument.ofText first with
      | .separator => if rest.isEmpty then .request toolchain request else .rejected
      | .short 'h' | .long "help" none => .showHelp
      | _ => .rejected

/-- The arguments of the synthesis command, in addition to what was read before them. -/
def readSynth (toolchain : Option String) (request : SynthRequest) (arguments : List String) :
    Reading :=
  match arguments with
  | [] => .request toolchain (.synth request)
  | first :: rest =>
      match Argument.ofText first with
      | .separator =>
          .request toolchain (.synth { request with inputs := request.inputs ++ rest })
      | .word input => readSynth toolchain (request.addInput input) rest
      | .short 'h' => .showHelp
      | .short _ => .rejected
      | .long name attached =>
          if SynthRequest.isSwitch name then
            match attached, request.turnOn? name with
            | none, some request => readSynth toolchain request rest
            | _, _ => .rejected
          else if name = "help" ∧ attached = none then .showHelp
          else
            match _found : valueOf? attached rest with
            | none => .rejected
            | some (value, after) =>
                match request.set? name value with
                | none => .rejected
                | some request => readSynth toolchain request after
termination_by arguments.length
decreasing_by
  · simp
  · simp
  · have shorter := length_le_of_value_of (by assumption)
    simp only [List.length_cons]
    omega

/-- The arguments of the help command: the name of a command, if any. -/
def readHelp : List String → Reading
  | [] => .showHelp
  | [name] =>
      if ["version", "synth", "stages", "families", "help"].contains name then .showHelp
      else .rejected
  | _ => .rejected

/-- The arguments of the program. The settings file is named before the command. -/
def readArguments (toolchain : Option String) (arguments : List String) : Reading :=
  match arguments with
  | [] => .request toolchain .nothing
  | first :: rest =>
      match Argument.ofText first with
      | .separator => if rest.isEmpty then .request toolchain .nothing else .rejected
      | .short 'V' | .long "version" none => .showVersion
      | .short 'h' | .long "help" none => .showHelp
      | .word "version" => readNone toolchain .version rest
      | .word "stages" => readNone toolchain .stages rest
      | .word "families" => readNone toolchain .families rest
      | .word "synth" => readSynth toolchain {} rest
      | .word "help" => readHelp rest
      | .long "toolchain" attached =>
          match _found : valueOf? attached rest with
          | none => .rejected
          | some (path, after) =>
              if toolchain.isSome then .rejected else readArguments (some path) after
      | _ => .rejected
termination_by arguments.length
decreasing_by
  have shorter := length_le_of_value_of (by assumption)
  simp only [List.length_cons]
  omega

/-- The meaning of the arguments of the program. -/
def Reading.ofArguments (arguments : List String) : Reading :=
  readArguments none arguments

end StagedSynthesis.CommandLine
