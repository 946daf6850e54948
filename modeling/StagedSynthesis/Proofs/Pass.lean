import StagedSynthesis.Executor

/-!
# Passes in sequence

A pass over invocations or stages ends early at its first problem. `Pass.followedBy` joins two
passes: the second starts where the first left the design and the invoker, and only if the first
met no problem. Running a list of invocations or stages is such a sequence, one pass for each
element, so a pass over two lists in a row splits into a pass over each (`run_stages_append`).
-/

namespace StagedSynthesis

/-- The labels and entries of one transcript, then those of another. -/
instance : Append Transcript where
  append first second := ⟨first.labels ++ second.labels, first.entries ++ second.entries⟩

/-- Transcripts one after the other can be grouped as one likes. -/
theorem Transcript.append_assoc (first second third : Transcript) :
    first ++ second ++ third = first ++ (second ++ third) := by
  show Transcript.mk (_ ++ _ ++ _) (_ ++ _ ++ _) = Transcript.mk (_ ++ (_ ++ _)) (_ ++ (_ ++ _))
  rw [List.append_assoc, List.append_assoc]

variable {δ ι : Type}

namespace Pass

/-- The second pass with what the first one recorded put in front. -/
def prepended (first second : Pass δ ι) : Pass δ ι where
  design := second.design
  invoker := second.invoker
  problem := second.problem
  transcript := first.transcript ++ second.transcript
  events := first.events ++ second.events

/-- One pass and then, unless it met a problem, another from where it ended. -/
def followedBy (first : Pass δ ι) (next : δ → ι → Pass δ ι) : Pass δ ι :=
  match first.problem with
  | some _ => first
  | none => first.prepended (next first.design first.invoker)

/-- Whether a pass reached its end, or the problem that stopped it. -/
def result (pass : Pass δ ι) : Except Problem Unit :=
  match pass.problem with
  | some problem => .error problem
  | none => .ok ()

/-- Nothing follows a pass that met a problem. -/
theorem followed_by_of_problem {first : Pass δ ι} {problem : Problem}
    (h : first.problem = some problem) (next : δ → ι → Pass δ ι) :
    first.followedBy next = first := by
  simp only [followedBy, h]

/-- A pass without a problem hands its design and its invoker on. -/
theorem followed_by_of_none {first : Pass δ ι} (h : first.problem = none)
    (next : δ → ι → Pass δ ι) :
    first.followedBy next = first.prepended (next first.design first.invoker) := by
  simp only [followedBy, h]

/-- What two passes recorded is put in front in one go. -/
theorem prepended_assoc (first second third : Pass δ ι) :
    (first.prepended second).prepended third = first.prepended (second.prepended third) := by
  simp only [prepended, Transcript.append_assoc, List.append_assoc]

/-- Passes may be grouped in any way. -/
theorem followed_by_assoc (first : Pass δ ι) (second third : δ → ι → Pass δ ι) :
    (first.followedBy second).followedBy third =
      first.followedBy fun design invoker => (second design invoker).followedBy third := by
  cases hfirst : first.problem with
  | some problem => simp only [followed_by_of_problem hfirst]
  | none =>
      rw [followed_by_of_none hfirst, followed_by_of_none hfirst]
      -- Only the problem of the second pass decides whether the third one starts.
      let joined := first.prepended (second first.design first.invoker)
      cases hsecond : (second first.design first.invoker).problem with
      | some problem =>
          have hjoined : joined.problem = some problem := hsecond
          rw [followed_by_of_problem hsecond, followed_by_of_problem hjoined]
      | none =>
          have hjoined : joined.problem = none := hsecond
          rw [followed_by_of_none hsecond, followed_by_of_none hjoined, ← prepended_assoc]
          rfl

end Pass

namespace Executor

variable (backend : Backend δ ι)

/-- Hand one invocation of a stage to the back end. -/
def attempt (label : String) (invocation : Invocation) (design : δ) (invoker : ι) : Pass δ ι :=
  let reply := backend.invoke design invoker invocation
  let events := .invoking invocation.command :: reply.events
  match reply.result with
  | .error cause =>
      { design := reply.design
        invoker := reply.invoker
        problem := some (.operationFailed label invocation.command cause)
        transcript := { entries := [Entry.record label .failed invocation] }
        events := events }
  | .ok () =>
      { design := reply.design
        invoker := reply.invoker
        transcript := { entries := [Entry.record label .invoked invocation] }
        events := events }

/-- Run one stage. Its label is recorded whether or not an invocation of it fails. -/
def runStage (stage : Stage) (design : δ) (invoker : ι) : Pass δ ι :=
  let pass := runInvocations backend stage.label stage.invocations design invoker
  { pass with
    transcript := { pass.transcript with labels := [stage.label] }
    events := .stageStarted stage.label :: pass.events }

/-- A list of invocations is run by attempting its head and then running its tail. -/
theorem run_invocations_cons (label : String) (invocation : Invocation)
    (rest : List Invocation) (design : δ) (invoker : ι) :
    runInvocations backend label (invocation :: rest) design invoker =
      (attempt backend label invocation design invoker).followedBy
        (runInvocations backend label rest) := by
  cases hresult : (backend.invoke design invoker invocation).result with
  | error cause =>
      simp only [runInvocations, attempt, hresult]
      rfl
  | ok =>
      simp only [runInvocations, attempt, hresult]
      rfl

/-- A list of stages is run by running its head and then its tail. -/
theorem run_stages_cons (stage : Stage) (rest : List Stage) (design : δ) (invoker : ι) :
    runStages backend (stage :: rest) design invoker =
      (runStage backend stage design invoker).followedBy (runStages backend rest) := by
  cases hproblem :
      (runInvocations backend stage.label stage.invocations design invoker).problem with
  | some problem => simp only [runStages, runStage, Pass.followedBy, hproblem]
  | none =>
      simp only [runStages, runStage, Pass.followedBy, hproblem]
      rfl

/-- Invocations in a row are run one list after the other. -/
theorem run_invocations_append (label : String) (first second : List Invocation) (design : δ)
    (invoker : ι) :
    runInvocations backend label (first ++ second) design invoker =
      (runInvocations backend label first design invoker).followedBy
        (runInvocations backend label second) := by
  induction first generalizing design invoker with
  | nil => rfl
  | cons invocation rest ih =>
      rw [List.cons_append, run_invocations_cons, run_invocations_cons, Pass.followed_by_assoc]
      congr 1
      funext design invoker
      exact ih design invoker

/-- Stages in a row are run one list after the other. -/
theorem run_stages_append (first second : List Stage) (design : δ) (invoker : ι) :
    runStages backend (first ++ second) design invoker =
      (runStages backend first design invoker).followedBy (runStages backend second) := by
  induction first generalizing design invoker with
  | nil => rfl
  | cons stage rest ih =>
      rw [List.cons_append, run_stages_cons, run_stages_cons, Pass.followed_by_assoc]
      congr 1
      funext design invoker
      exact ih design invoker

end Executor

end StagedSynthesis
