import StagedSynthesis.Family

/-!
# Problems

The causes for which a synthesis run is refused or stopped, the phase of a run that each belongs
to, and the one text in which each is reported.
-/

namespace StagedSynthesis

/-- The phase of a run that met a problem. -/
inductive ProblemKind where
  /-- Options or range were rejected and nothing ran. -/
  | configuration
  /-- The design was not in a state from which the script can start. -/
  | precondition
  /-- An operation reported failure and the run stopped in place. -/
  | operation
  deriving DecidableEq, Repr

/-- The name of the phase. -/
def ProblemKind.name : ProblemKind → String
  | .configuration => "Configuration"
  | .precondition => "Precondition"
  | .operation => "Operation"

/-- Why a run was refused or stopped. -/
inductive Problem where
  | unknownFamily (name : String)
  | unknownStage (label : String)
  | invertedRange (first last : String)
  | precondition (reason : String)
  | operationFailed (stage command cause : String)
  deriving DecidableEq, Repr

namespace Problem

/-- The phase that met the problem. -/
def kind : Problem → ProblemKind
  | .unknownFamily _ | .unknownStage _ | .invertedRange _ _ => .configuration
  | .precondition _ => .precondition
  | .operationFailed _ _ _ => .operation

/-- The text in which the problem is reported. -/
def message : Problem → String
  | .unknownFamily name =>
      "invalid family specified: '" ++ name ++ "' (supported: " ++ Family.allNames ++ ")"
  | .unknownStage label => "unknown stage label: '" ++ label ++ "'"
  | .invertedRange first last =>
      "run range start '" ++ first ++ "' comes after end '" ++ last ++ "' in the stage order"
  | .precondition reason => "design precondition failed: " ++ reason
  | .operationFailed stage command cause =>
      "operation failed in stage '" ++ stage ++ "': `" ++ command ++ "`: " ++ cause

end Problem

end StagedSynthesis
