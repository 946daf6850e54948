import StagedSynthesis.BlockRam
import StagedSynthesis.Builder
import StagedSynthesis.CommandLine
import StagedSynthesis.CommandLine.Arguments
import StagedSynthesis.CommandLine.Report
import StagedSynthesis.Configuration
import StagedSynthesis.Event
import StagedSynthesis.Executor
import StagedSynthesis.Family
import StagedSynthesis.Family.FlipFlop
import StagedSynthesis.Family.Multiplier
import StagedSynthesis.Files
import StagedSynthesis.Flow
import StagedSynthesis.Guard
import StagedSynthesis.Invocation
import StagedSynthesis.Main
import StagedSynthesis.Output
import StagedSynthesis.Problem
import StagedSynthesis.Proofs.Endings
import StagedSynthesis.Proofs.Explanation
import StagedSynthesis.Proofs.PartialRuns
import StagedSynthesis.Proofs.Pass
import StagedSynthesis.Proofs.Runs
import StagedSynthesis.Proofs.Session.Line
import StagedSynthesis.Proofs.Session.Reports
import StagedSynthesis.Proofs.Session.Stream
import StagedSynthesis.Proofs.Steps
import StagedSynthesis.Recipe
import StagedSynthesis.Recorder
import StagedSynthesis.Script
import StagedSynthesis.ScriptFile
import StagedSynthesis.Session
import StagedSynthesis.Session.Line
import StagedSynthesis.Session.Rehearsal
import StagedSynthesis.Session.Stream
import StagedSynthesis.StageRange
import StagedSynthesis.Switch
import StagedSynthesis.Text.Blank
import StagedSynthesis.Text.FileName
import StagedSynthesis.Text.Joined
import StagedSynthesis.Text.Printable
import StagedSynthesis.Text.Quoted
import StagedSynthesis.Toml.Document
import StagedSynthesis.Toml.Scalar
import StagedSynthesis.Toml.Value
import StagedSynthesis.Toolchain
import StagedSynthesis.Transcript
import StagedSynthesis.Proofs.Session.Sending
import StagedSynthesis.Proofs.Recording
import StagedSynthesis.Proofs.Session.Attribution
import StagedSynthesis.Proofs.Conversation
import StagedSynthesis.Proofs.BackEnds
import StagedSynthesis.Proofs.Annotation
import StagedSynthesis.Proofs.Phases
import StagedSynthesis.Proofs.Session.Lifecycle
import StagedSynthesis.Proofs.Checkpoint
import StagedSynthesis.Proofs.Branches
import StagedSynthesis.Proofs.Operations
import StagedSynthesis.Proofs.Relevance
import StagedSynthesis.Proofs.Destinations
import StagedSynthesis.Proofs.DelayTarget
import StagedSynthesis.Proofs.Session.Decision
import StagedSynthesis.Proofs.SingleUse
import StagedSynthesis.Proofs.Session.Classification
import StagedSynthesis.Proofs.RangeText
import StagedSynthesis.Proofs.Selection
import StagedSynthesis.Proofs.TranscriptText
import StagedSynthesis.Proofs.Alternatives
import StagedSynthesis.Proofs.SyncReset
import StagedSynthesis.Proofs.Conjunction
import StagedSynthesis.Proofs.FileNames
import StagedSynthesis.Proofs.LibraryFiles
import StagedSynthesis.Proofs.WidthTuples
import StagedSynthesis.Proofs.Retyping
import StagedSynthesis.Proofs.ScriptPlacement
