import StagedSynthesis.Invocation

/-!
# Transcripts

What a run did, stage by stage: the labels of the stages it reached, empty ones included, and an
entry for every invocation it listed or tried.
-/

namespace StagedSynthesis

/-- What became of an invocation. -/
inductive Outcome where
  | listed
  | invoked
  | failed
  deriving DecidableEq, Repr

/-- The name of the outcome. -/
def Outcome.name : Outcome → String
  | .listed => "Listed"
  | .invoked => "Invoked"
  | .failed => "Failed"

/-- An invocation that a run listed or tried. -/
structure Entry where
  stage : String
  command : String
  annotation : Option String
  outcome : Outcome
  deriving DecidableEq, Repr

namespace Entry

/-- The entry of an invocation of a stage. -/
def record (stage : String) (outcome : Outcome) (invocation : Invocation) : Entry where
  stage := stage
  command := invocation.command
  annotation := invocation.annotation
  outcome := outcome

/-- The line of an entry: its command, its condition in parentheses, and a mark if it failed. -/
def line (entry : Entry) : String :=
  "    " ++ entry.command ++
    (match entry.annotation with
      | some condition => "    (" ++ condition ++ ")"
      | none => "") ++
    (if entry.outcome = .failed then "    [FAILED]" else "") ++ "\n"

end Entry

/-- The stages that a run reached and what it did in them. -/
structure Transcript where
  labels : List String := []
  entries : List Entry := []
  deriving DecidableEq, Repr

namespace Transcript

/-- The commands of all entries in order. -/
def commands (transcript : Transcript) : List String :=
  transcript.entries.map Entry.command

/-- How many invocations succeeded. -/
def invokedCount (transcript : Transcript) : Nat :=
  transcript.entries.countP fun entry => entry.outcome = .invoked

/-- The lines of one stage: its label, its entries, and an empty line. -/
def stageText (transcript : Transcript) (label : String) : String :=
  (transcript.entries.filter fun entry => entry.stage = label).foldl
    (fun text entry => text ++ entry.line) (label ++ ":\n") ++ "\n"

/-- The listing of the transcript. -/
def text (transcript : Transcript) : String :=
  transcript.labels.foldl (fun text label => text ++ transcript.stageText label) ""

end Transcript

end StagedSynthesis
