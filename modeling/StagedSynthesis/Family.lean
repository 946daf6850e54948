import StagedSynthesis.Text.Joined

/-!
# Device families

The four supported families, their names, and the yes-or-no capabilities by which the stages of
the script differ from family to family.
-/

namespace StagedSynthesis

/-- A family of programmable devices. -/
inductive Family where
  | pp3
  | k4n8
  | k6n10
  | k6n10f
  deriving DecidableEq, Repr

/-- The shortest and the longest shift register that a family can pack into one cell. -/
structure LengthBounds where
  least : Nat
  greatest : Nat
  deriving DecidableEq, Repr

namespace Family

/-- Every family, in the order in which families are listed to the user. -/
def all : List Family :=
  [.pp3, .k4n8, .k6n10, .k6n10f]

/-- The family used when none is named. -/
def default : Family :=
  .k4n8

/-- The name by which a family is selected, which is also the name of its library directory. -/
def name : Family → String
  | .pp3 => "pp3"
  | .k4n8 => "qlf_k4n8"
  | .k6n10 => "qlf_k6n10"
  | .k6n10f => "qlf_k6n10f"

/-- The family with exactly this name. -/
def ofName? (text : String) : Option Family :=
  all.find? fun family => family.name = text

/-- Multipliers can be mapped onto DSP blocks. -/
def hasDsp : Family → Bool
  | .k6n10 | .k6n10f => true
  | .pp3 | .k4n8 => false

/-- Memories can be mapped onto block RAM. -/
def hasBram : Family → Bool
  | .pp3 | .k6n10 | .k6n10f => true
  | .k4n8 => false

/-- Arithmetic can be mapped onto adder cells. -/
def hasAdderMap : Family → Bool
  | .k4n8 | .k6n10 | .k6n10f => true
  | .pp3 => false

/-- Mapped lookup tables are turned into cells of the family. -/
def hasLutCellMap : Family → Bool
  | .pp3 | .k6n10 => true
  | .k4n8 | .k6n10f => false

/-- The family has no flip-flop with a synchronous set or reset. -/
def forbidsSyncReset : Family → Bool
  | .k4n8 => true
  | .pp3 | .k6n10 | .k6n10f => false

/-- Lookup tables can be mapped by the timing-driven mapper. -/
def mapsLutsWithAbc9 : Family → Bool
  | .k4n8 => false
  | .pp3 | .k6n10 | .k6n10f => true

/-- The lengths of shift registers that are packed, where any are. -/
def shiftRegisterBounds : Family → Option LengthBounds
  | .k4n8 => some ⟨8, 8⟩
  | .k6n10f => some ⟨8, 20⟩
  | .pp3 | .k6n10 => none

/-- The families with a capability, in listing order. -/
def having (capable : Family → Bool) : List Family :=
  all.filter capable

/-- The names of all families in listing order, separated by commas. -/
def allNames : String :=
  Text.joined ", " (all.map name)

/-- No family is missing from the list. -/
theorem mem_all (family : Family) : family ∈ all := by
  cases family <;> decide

/-- A name leads back to its family. -/
theorem of_name_name (family : Family) : ofName? family.name = some family := by
  cases family <;> decide

end Family

end StagedSynthesis
