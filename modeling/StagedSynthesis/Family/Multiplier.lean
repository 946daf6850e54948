import StagedSynthesis.Family

/-!
# Multiplier rules

For each family with DSP blocks, the operand widths in which a multiplier is mapped onto a block.
A rule is handed to the multiplier mapper as a list of definitions.
-/

namespace StagedSynthesis

/-- The window of operand widths in which a multiplier becomes the named block. -/
structure MultiplierRule where
  aMost : Nat
  bMost : Nat
  aLeast : Nat
  bLeast : Nat
  resultLeast : Option Nat
  block : String
  deriving DecidableEq, Repr

namespace MultiplierRule

/-- One definition for the mapper, as the two arguments that carry it. -/
def define (name value : String) : List String :=
  ["-D", name ++ "=" ++ value]

/-- The definitions of the rule as command arguments. The result width is left out where the rule
has no bound on it. -/
def arguments (rule : MultiplierRule) : List String :=
  define "DSP_A_MAXWIDTH" (Text.decimal rule.aMost) ++
    define "DSP_B_MAXWIDTH" (Text.decimal rule.bMost) ++
    define "DSP_A_MINWIDTH" (Text.decimal rule.aLeast) ++
    define "DSP_B_MINWIDTH" (Text.decimal rule.bLeast) ++
    (match rule.resultLeast with
      | some least => define "DSP_Y_MINWIDTH" (Text.decimal least)
      | none => []) ++
    define "DSP_NAME" rule.block

/-- The definitions of the rule as one text. -/
def definitions (rule : MultiplierRule) : String :=
  Text.joined " " rule.arguments

end MultiplierRule

/-- The rules of the family in the order in which they are tried. -/
def Family.multiplierRules : Family → List MultiplierRule
  | .k6n10 => [⟨16, 16, 2, 2, some 11, "$__MUL16X16"⟩]
  | .k6n10f =>
      [⟨20, 18, 11, 10, none, "$__QL_MUL20X18"⟩, ⟨10, 9, 4, 4, none, "$__QL_MUL10X9"⟩]
  | .pp3 | .k4n8 => []

end StagedSynthesis
