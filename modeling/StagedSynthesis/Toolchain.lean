import StagedSynthesis.Toml.Document

/-!
# Toolchain settings

Settings that belong to an installation rather than to a run: where the tool and its libraries
are, and which family and delay target to assume. They stand in a table named `toolchain` of a
settings file. Keys with other names are ignored, but a known key must have a value of its kind.
-/

namespace StagedSynthesis

/-- The settings of an installation. -/
structure Toolchain where
  toolPath : Option String := none
  libraryPath : Option String := none
  shareDirectory : Option String := none
  defaultFamily : Option String := none
  delay : Option Nat := none
  deriving DecidableEq, Repr

namespace Toolchain

/-- The file from which settings are read when no other is named. -/
def defaultFile : String :=
  "qlsynth-toolchain.toml"

/-- A value that must be a text if it is there. -/
def text? : Option Toml.Value → Option (Option String)
  | none => some none
  | some (.text text) => some (some text)
  | some _ => none

/-- A value that must be a number of 32 bits if it is there. -/
def number? : Option Toml.Value → Option (Option Nat)
  | none => some none
  | some (.integer number) =>
      if 0 ≤ number ∧ number < UInt32.size then some (some number.toNat) else none
  | some _ => none

/-- The settings with these values, each of which must be of its kind. -/
def ofValues (toolPath libraryPath shareDirectory defaultFamily delay : Option Toml.Value) :
    Option Toolchain := do
  some
    { toolPath := ← text? toolPath
      libraryPath := ← text? libraryPath
      shareDirectory := ← text? shareDirectory
      defaultFamily := ← text? defaultFamily
      delay := ← number? delay }

/-- The settings that a value describes: a table by its keys, or an array by the positions of its
elements, all of which must then be there. A time counts as a table with none of the keys. -/
def ofValue : Toml.Value → Option Toolchain
  | .table _ entries =>
      ofValues (entries.lookup "yosys_path") (entries.lookup "lib_path")
        (entries.lookup "yosys_share_dir") (entries.lookup "default_family")
        (entries.lookup "abc9_delay_ps")
  | .array (toolPath :: libraryPath :: shareDirectory :: defaultFamily :: delay :: _) =>
      ofValues toolPath libraryPath shareDirectory defaultFamily delay
  | .time => some {}
  | _ => none

/-- The settings in the text of a settings file. -/
def parse (text : String) : Option Toolchain := do
  let entries ← Toml.parse text
  let value ← entries.lookup "toolchain"
  ofValue value

end Toolchain

end StagedSynthesis
