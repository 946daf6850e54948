import StagedSynthesis.Family

/-!
# Legal flip-flops

The flip-flop and latch cells that each family can implement, and the command that turns every
flip-flop of a design into one of a given list of cells.
-/

namespace StagedSynthesis

/-- A storage cell together with the initial value it supports. -/
structure StorageCell where
  name : String
  initial : String
  deriving DecidableEq, Repr

namespace Family

/-- The storage cells that the family can implement. -/
def legalCells : Family → List StorageCell
  | .pp3 => [⟨"$_DFFSRE_PPPP_", "0"⟩, ⟨"$_DLATCH_?_", "x"⟩]
  | .k4n8 =>
      [⟨"$_DFF_P_", "0"⟩, ⟨"$_DFF_P??_", "0"⟩, ⟨"$_DFF_N_", "0"⟩, ⟨"$_DFF_N??_", "0"⟩,
        ⟨"$_DFFSR_???_", "0"⟩]
  | .k6n10 =>
      [⟨"$_DFF_P_", "0"⟩, ⟨"$_DFF_PP?_", "0"⟩, ⟨"$_DFFE_PP?P_", "0"⟩, ⟨"$_DFFSR_PPP_", "0"⟩,
        ⟨"$_DFFSRE_PPPP_", "0"⟩, ⟨"$_DLATCHSR_PPP_", "0"⟩]
  | .k6n10f => [⟨"$_DFFSRE_?NNP_", "0"⟩, ⟨"$_DLATCHSR_?NN_", "0"⟩, ⟨"$_DLATCH_?_", "0"⟩]

end Family

namespace StorageCell

/-- The flip-flop with synchronous reset that one family offers beyond its legal cells. -/
def syncReset : StorageCell :=
  ⟨"$_SDFFE_?N?P_", "0"⟩

/-- The command that allows exactly these cells, in this order. -/
def legalizeCommand (cells : List StorageCell) : String :=
  Text.commandLine "dfflegalize" (cells.flatMap fun cell => ["-cell", cell.name, cell.initial])

end StorageCell

end StagedSynthesis
