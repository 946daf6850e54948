/-!
# Output formats

The file formats in which a synthesized design can be written, and the destination of each.
-/

namespace StagedSynthesis

/-- A format in which a design is written. -/
inductive OutputFormat where
  | blif
  | edif
  | verilog
  deriving DecidableEq, Repr

namespace OutputFormat

/-- Every format, in the order in which formats are listed to the user. -/
def all : List OutputFormat :=
  [.blif, .edif, .verilog]

/-- The spelling of the format as an option, without dashes. -/
def optionName : OutputFormat → String
  | .blif => "blif"
  | .edif => "edif"
  | .verilog => "verilog"

/-- The format with exactly this spelling. -/
def ofName? (text : String) : Option OutputFormat :=
  all.find? fun format => format.optionName = text

/-- The format as it is written in a condition. -/
def text (format : OutputFormat) : String :=
  "-" ++ format.optionName

end OutputFormat

/-- For each format the file to which the design is written, where one is wanted. -/
structure Outputs where
  blif : Option String := none
  edif : Option String := none
  verilog : Option String := none
  deriving DecidableEq, Repr

namespace Outputs

/-- The destination of a format. -/
def get (outputs : Outputs) : OutputFormat → Option String
  | .blif => outputs.blif
  | .edif => outputs.edif
  | .verilog => outputs.verilog

/-- The same destinations except that one format is given another. -/
def set (outputs : Outputs) (format : OutputFormat) (destination : Option String) : Outputs :=
  match format with
  | .blif => { outputs with blif := destination }
  | .edif => { outputs with edif := destination }
  | .verilog => { outputs with verilog := destination }

/-- Setting a format decides that format and no other. -/
@[simp]
theorem get_set (outputs : Outputs) (changed asked : OutputFormat) (destination : Option String) :
    (outputs.set changed destination).get asked =
      if asked = changed then destination else outputs.get asked := by
  cases changed <;> cases asked <;> rfl

end Outputs

end StagedSynthesis
