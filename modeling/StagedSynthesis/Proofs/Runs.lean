import StagedSynthesis.Proofs.Steps

/-!
# Runs of a fresh executor

What `Executor.run` and `Executor.explain` do with an executor that a range has just selected:
the listing, the refusal of a design that is not ready, and the pass over the selected stages. To
say which invocations a run hands over, `Backend.logged` keeps a log beside the state of the
invoker. The log changes nothing else (`run_logged`), and `Executor.calls` reads it.
-/

namespace StagedSynthesis

variable {δ ι κ : Type}

/-- The same pass with another view of its invoker. -/
def Pass.mapInvoker (view : ι → κ) (pass : Pass δ ι) : Pass δ κ where
  design := pass.design
  invoker := view pass.invoker
  problem := pass.problem
  transcript := pass.transcript
  events := pass.events

/-- The same run with another view of its invoker. -/
def Run.mapInvoker (view : ι → κ) (run : Run δ ι) : Run δ κ where
  executor := run.executor
  design := run.design
  invoker := view run.invoker
  result := run.result
  events := run.events

/-- A view that the next pass respects is a view of the two passes in sequence. -/
theorem Pass.map_invoker_followed_by {view : ι → κ} {next : δ → ι → Pass δ ι}
    (viewed : δ → κ → Pass δ κ)
    (hnext : ∀ design invoker, (next design invoker).mapInvoker view = viewed design (view invoker))
    (first : Pass δ ι) :
    (first.followedBy next).mapInvoker view = (first.mapInvoker view).followedBy viewed := by
  cases hproblem : first.problem with
  | some problem =>
      have hviewed : (first.mapInvoker view).problem = some problem := hproblem
      rw [followed_by_of_problem hproblem, followed_by_of_problem hviewed]
  | none =>
      have hviewed : (first.mapInvoker view).problem = none := hproblem
      rw [followed_by_of_none hproblem, followed_by_of_none hviewed]
      have hrest := hnext first.design first.invoker
      exact congrArg (first.mapInvoker view).prepended hrest

namespace Backend

variable (backend : Backend δ ι)

/-- The back end with an invoker that also keeps a log of what it was handed. -/
def logged : Backend δ (ι × List Invocation) where
  checkReady := backend.checkReady
  invoke design invoker invocation :=
    let reply := backend.invoke design invoker.1 invocation
    { design := reply.design
      invoker := (reply.invoker, invoker.2 ++ [invocation])
      result := reply.result
      events := reply.events }

/-- The log grows by exactly what is handed over. -/
theorem after_logged (invocations : List Invocation) (design : δ) (invoker : ι)
    (log : List Invocation) :
    backend.logged.after invocations design (invoker, log) =
      ((backend.after invocations design invoker).1,
        (backend.after invocations design invoker).2, log ++ invocations) := by
  induction invocations generalizing design invoker log with
  | nil => simp [after]
  | cons invocation rest ih =>
      refine (ih _ _ _).trans ?_
      rw [List.append_assoc]
      rfl

/-- A log does not change what is accepted. -/
theorem accepts_logged (invocations : List Invocation) (design : δ) (invoker : ι)
    (log : List Invocation) :
    backend.logged.Accepts invocations design (invoker, log) ↔
      backend.Accepts invocations design invoker := by
  induction invocations generalizing design invoker log with
  | nil => exact Iff.rfl
  | cons invocation rest ih => exact and_congr_right fun _ => ih _ _ _

/-- A log does not change where a back end fails. -/
theorem FailsAt.logged {backend : Backend δ ι} {stages : List Stage} {position : Position stages}
    {design : δ} {invoker : ι} {cause : String}
    (h : backend.FailsAt position design invoker cause) (log : List Invocation) :
    backend.logged.FailsAt position design (invoker, log) cause where
  accepts := (backend.accepts_logged _ design invoker log).mpr h.accepts
  refused := by
    rw [replyAfter, after_logged]
    exact h.refused

end Backend

/-- The stages of a script from one position to another, both included. -/
def Script.between (script : Script) (first last : Nat) : List Stage :=
  (script.stages.take (last + 1)).drop first

namespace Executor

variable (backend : Backend δ ι)

/-- A log does not change how invocations run. -/
theorem run_invocations_logged (label : String) (invocations : List Invocation) (design : δ)
    (invoker : ι × List Invocation) :
    (runInvocations backend.logged label invocations design invoker).mapInvoker Prod.fst =
      runInvocations backend label invocations design invoker.1 := by
  induction invocations generalizing design invoker with
  | nil => rfl
  | cons invocation rest ih =>
      rw [run_invocations_cons, run_invocations_cons,
        Pass.map_invoker_followed_by (runInvocations backend label rest) ih]
      -- What follows is settled by the induction hypothesis, so only the first attempt is left.
      congr 1
      simp only [attempt, Backend.logged]
      cases (backend.invoke design invoker.1 invocation).result <;> rfl

/-- A log does not change how stages run. -/
theorem run_stages_logged (stages : List Stage) (design : δ) (invoker : ι × List Invocation) :
    (runStages backend.logged stages design invoker).mapInvoker Prod.fst =
      runStages backend stages design invoker.1 := by
  induction stages generalizing design invoker with
  | nil => rfl
  | cons stage rest ih =>
      rw [run_stages_cons, run_stages_cons,
        Pass.map_invoker_followed_by (runStages backend rest) ih]
      congr 1
      simp only [runStage, ← run_invocations_logged backend]
      rfl

/-- The executors that a range selects are fresh. -/
theorem select_eq_ok_iff {script : Script} {range : StageRange} {executor : Executor} :
    select script range = .ok executor ↔
      ∃ span, range.resolve script.labels = .ok span ∧
        executor = { script := script, start := span.1, stop := span.2 } := by
  unfold select
  cases range.resolve script.labels with
  | error problem => simp [Except.map]
  | ok span => simp [Except.map, eq_comm]

/-- A selected executor has its script and has not run. -/
theorem fresh_of_select {script : Script} {range : StageRange} {executor : Executor}
    (h : select script range = .ok executor) :
    executor.script = script ∧ executor.state = .pending := by
  obtain ⟨span, -, rfl⟩ := select_eq_ok_iff.mp h
  exact ⟨rfl, rfl⟩

/-- Listing a fresh executor completes and shows the steps of the selected stages. -/
theorem explain_of_pending {executor : Executor} (hstate : executor.state = .pending) :
    executor.explain =
      ({ executor with
          state := .completed
          transcript :=
            ⟨executor.selectedStages.map Stage.label,
              (stepsOf executor.selectedStages).map (Step.entry .listed)⟩ }, .ok ()) := by
  simp only [explain, begin?, hstate, if_true]
  rw [listing_eq]
  rfl

/-- A fresh executor for a script that is only explained lists and touches nothing. -/
theorem run_of_explain {executor : Executor} (hstate : executor.state = .pending)
    (hmode : executor.script.mode = .explain) (design : δ) (invoker : ι) :
    executor.run backend design invoker =
      { executor := executor.explain.1
        design := design
        invoker := invoker
        result := .ok ()
        events := [executor.startEvent] } := by
  simp only [run, explain, begin?, hstate, if_true, hmode]
  rfl

variable {backend}

/-- A fresh executor with a ready design makes one pass over the selected stages. -/
theorem run_of_ready {executor : Executor} (hstate : executor.state = .pending)
    (hmode : executor.script.mode = .execute) {design : δ}
    (hready : backend.checkReady design = .ok ()) (invoker : ι) :
    let pass := runStages backend executor.selectedStages design invoker
    executor.run backend design invoker =
      { executor :=
          { executor with
            state := if pass.problem.isSome then .aborted else .completed
            transcript := pass.transcript }
        design := pass.design
        invoker := pass.invoker
        result := pass.result
        events := executor.startEvent :: pass.events } := by
  simp only [run, begin?, hstate, if_true, hmode, hready]
  rfl

variable (backend)

/-- A log changes nothing but itself. -/
theorem run_logged (executor : Executor) (design : δ) (invoker : ι × List Invocation) :
    (executor.run backend.logged design invoker).mapInvoker Prod.fst =
      executor.run backend design invoker.1 := by
  by_cases hstate : executor.state = .pending
  · cases hmode : executor.script.mode with
    | explain =>
        rw [run_of_explain backend.logged hstate hmode, run_of_explain backend hstate hmode]
        rfl
    | execute =>
        cases hready : backend.checkReady design with
        | error reason =>
            simp only [run, begin?, hstate, if_true, hmode, Backend.logged, hready]
            rfl
        | ok =>
            have hlogged : backend.logged.checkReady design = .ok () := hready
            rw [run_of_ready hstate hmode hready, run_of_ready hstate hmode hlogged,
              ← run_stages_logged backend]
            rfl
  · simp only [run, begin?, hstate, if_false]
    rfl

/-- The invocations that a run hands to the back end, in order. -/
def calls (executor : Executor) (design : δ) (invoker : ι) : List Invocation :=
  (executor.run backend.logged design (invoker, [])).invoker.2

end Executor

end StagedSynthesis
