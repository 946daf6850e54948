import StagedSynthesis.Text.Joined

/-!
# Block RAM retyping

A block RAM appears in a netlist as one generic cell whose attributes tell how it is used. Retyping
gives every use its own cell name, so that `TDP36K_FIFO_SYNC_A_X9_B_X18_nonsplit` stands where a
generic cell with two dozen attributes stood. A `Retyping` is the new name together with the
attribute values that a cell must have; there is one for every tuple of port widths.
-/

namespace StagedSynthesis.BlockRam

/-- What a block RAM is used as. -/
inductive Usage where
  | memory
  | asyncFifo
  | syncFifo
  deriving DecidableEq, Repr

namespace Usage

/-- Every usage, in the order in which cells are retyped. -/
def all : List Usage :=
  [.memory, .asyncFifo, .syncFifo]

/-- The part of a cell name that tells the usage. -/
def cellPart : Usage → String
  | .memory => "BRAM"
  | .asyncFifo => "FIFO_ASYNC"
  | .syncFifo => "FIFO_SYNC"

/-- The attribute values of a cell with this usage. -/
def required : Usage → List (String × String)
  | .memory => [("is_fifo", "0")]
  | .asyncFifo => [("is_fifo", "1"), ("sync_fifo", "0")]
  | .syncFifo => [("is_fifo", "1"), ("sync_fifo", "1")]

end Usage

/-- A memory port: its name in attributes and its name in cell names. -/
structure Port where
  name : String
  cellPart : String
  deriving DecidableEq, Repr

/-- Whether a block is one memory or two halves. -/
inductive Shape where
  | whole
  | halves
  deriving DecidableEq, Repr

namespace Shape

/-- The ports of a block of this shape. -/
def ports : Shape → List Port
  | .whole => [⟨"a", "A"⟩, ⟨"b", "B"⟩]
  | .halves => [⟨"a1", "A1"⟩, ⟨"b1", "B1"⟩, ⟨"a2", "A2"⟩, ⟨"b2", "B2"⟩]

/-- The end of a cell name that tells the shape. -/
def cellPart : Shape → String
  | .whole => "nonsplit"
  | .halves => "split"

/-- The attribute values that tell an instantiated block of this shape. -/
def required : Shape → List (String × String)
  | .whole => []
  | .halves => [("is_split", "1")]

end Shape

/-- The port widths of a block used as one memory. -/
def wholeWidths : List Nat :=
  [1, 2, 4, 9, 18, 36]

/-- The port widths of a block split into two halves. -/
def halfWidths : List Nat :=
  [1, 2, 4, 9, 18]

/-- All tuples of a given length over the widths. The first position varies slowest. -/
def widthTuples (widths : List Nat) : Nat → List (List Nat)
  | 0 => [[]]
  | length + 1 =>
      (widthTuples widths length).flatMap fun front => widths.map fun width => front ++ [width]

/-- A new cell name and the attribute values of the cells that get it. -/
structure Retyping where
  cell : String
  required : List (String × String)
  deriving DecidableEq, Repr

/-- The command that retypes the generic cells with all the required attribute values. -/
def Retyping.command (retyping : Retyping) : String :=
  Text.commandLine "chtype"
    (["-set", retyping.cell, "t:TDP36K"] ++
      retyping.required.flatMap fun condition => ["a:" ++ condition.1 ++ "=" ++ condition.2, "%i"])

/-- The cell name for a usage, a shape and the widths of its ports. -/
def cellName (usage : Usage) (shape : Shape) (widths : List Nat) : String :=
  Text.joined "_"
    (["TDP36K", usage.cellPart] ++
      (shape.ports.zipWith (fun port width => port.cellPart ++ "_X" ++ Text.decimal width)
        widths) ++
      [shape.cellPart])

/-- The values of the width attribute of each port. -/
def requiredWidths (shape : Shape) (measure : String) (widths : List Nat) :
    List (String × String) :=
  shape.ports.zipWith
    (fun port width => ("port_" ++ port.name ++ "_" ++ measure, Text.decimal width)) widths

/-- The retypings of blocks that the design instantiates. Such blocks may be queues. -/
def instantiated (shape : Shape) (widths : List Nat) : List Retyping :=
  (widthTuples widths shape.ports.length).flatMap fun tuple =>
    Usage.all.map fun usage =>
      { cell := cellName usage shape tuple
        required :=
          [("is_inferred", "0")] ++ shape.required ++ usage.required ++
            requiredWidths shape "dwidth" tuple }

/-- The retypings of blocks that were inferred from memories. Such blocks are never queues. -/
def inferred (shape : Shape) (widths : List Nat) : List Retyping :=
  (widthTuples widths shape.ports.length).map fun tuple =>
    { cell := cellName .memory shape tuple
      required := [("is_inferred", "1")] ++ requiredWidths shape "width" tuple }

/-- All retypings for the widths of whole blocks and the widths of halves. -/
def retypings (whole halves : List Nat) : List Retyping :=
  instantiated .whole whole ++ instantiated .halves halves ++ inferred .whole whole ++
    inferred .halves halves

/-- The commands that retype every supported use of a block RAM. -/
def retypeCommands : List String :=
  (retypings wholeWidths halfWidths).map Retyping.command

/-- There are as many tuples as ways to choose a width for every position. -/
theorem length_width_tuples (widths : List Nat) (length : Nat) :
    (widthTuples widths length).length = widths.length.pow length := by
  induction length with
  | zero => rfl
  | succ length ih =>
      have constant : ∀ fronts : List (List Nat),
          (fronts.flatMap fun front => widths.map fun width => front ++ [width]).length =
            fronts.length * widths.length := by
        intro fronts
        induction fronts with
        | nil => simp
        | cons front rest step =>
            simp only [List.flatMap_cons, List.length_append, List.length_map, List.length_cons,
              step, Nat.succ_mul]
            omega
      rw [widthTuples, constant, ih]
      rfl

end StagedSynthesis.BlockRam
