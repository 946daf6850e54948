import StagedSynthesis.Problem
import StagedSynthesis.Text.Blank

/-!
# Ranges of stages

A range selects a contiguous span of stages by its first and last label. An end that is left open
reaches to the first or last stage. A range is written as one label, as two labels with a colon
between them of which either may be missing, or as the empty text for everything.
-/

namespace StagedSynthesis

/-- A span of stages from a first to a last label, both included. -/
structure StageRange where
  first : Option String := none
  last : Option String := none
  deriving DecidableEq, Repr

namespace StageRange

/-- The whole script. -/
def everything : StageRange :=
  {}

/-- The one stage with a label. -/
def single (label : String) : StageRange :=
  ⟨some label, some label⟩

/-- The label in a part of a written range. A blank part leaves the end open. -/
def labelOf (part : List Char) : Option String :=
  match Text.trim part with
  | [] => none
  | label => some (String.ofList label)

/-- The range that a text describes. The text is divided at its first colon; without one it names
both ends. -/
def parse (text : String) : StageRange :=
  let front := text.toList.takeWhile (· ≠ ':')
  match text.toList.dropWhile (· ≠ ':') with
  | [] => ⟨labelOf front, labelOf front⟩
  | _ :: back => ⟨labelOf front, labelOf back⟩

/-- The text that describes a range. Equal ends are written as one label. -/
def text (range : StageRange) : String :=
  match range.first, range.last with
  | some first, some last => if first = last then first else first ++ ":" ++ last
  | first, last => first.getD "" ++ ":" ++ last.getD ""

/-- The position of the first stage with a label. -/
def position (labels : List String) (label : String) : Except Problem Nat :=
  match labels.idxOf? label with
  | some index => .ok index
  | none => .error (.unknownStage label)

/-- The positions of the first and the last selected stage. The first label is looked up before
the last, and a first stage behind the last is refused. -/
def resolve (range : StageRange) (labels : List String) : Except Problem (Nat × Nat) := do
  let start ← match range.first with
    | some label => position labels label
    | none => pure 0
  let stop ← match range.last with
    | some label => position labels label
    | none => pure (labels.length - 1)
  if stop < start then
    throw (.invertedRange (labels[start]?.getD "") (labels[stop]?.getD ""))
  else
    pure (start, stop)

end StageRange

end StagedSynthesis
