import StagedSynthesis.Proofs.Phases

/-!
# An executor is used once

An executor may be asked for a listing or a run any number of times, each time with another design,
another invoker and another back end. However the first call ends, it leaves the executor completed
or aborted (`settled_perform`), and an executor that is no longer pending refuses whatever it is
asked (`refuses_of_used`). The main theorem, `runs_at_most_once`, puts the two together for calls in
any number and order.
-/

namespace StagedSynthesis.Executor

/-- A call on an executor. Every run brings a design and an invoker of its own. -/
inductive Call : Type 1 where
  | explain
  | run {δ ι : Type} (backend : Backend δ ι) (design : δ) (invoker : ι)

/-- The executor after a call, and how the call ended. -/
def perform (executor : Executor) : Call → Executor × Except Problem Unit
  | .explain => executor.explain
  | .run backend design invoker =>
      let run := executor.run backend design invoker
      (run.executor, run.result)

/-- The executor after some calls in turn, however they ended. -/
def afterCalls (executor : Executor) (calls : List Call) : Executor :=
  calls.foldl (fun executor call => (executor.perform call).1) executor

variable {δ ι : Type}

/-- A run is refused. The executor, the design and the invoker stay as they are, nothing is handed
over, and nothing is asked of the back end either: with any other the run would be the same. -/
structure RefusesRun (executor : Executor) (problem : Problem) (backend : Backend δ ι) (design : δ)
    (invoker : ι) : Prop where
  unchanged : executor.run backend design invoker =
    { executor := executor, design := design, invoker := invoker, result := .error problem }
  calls : executor.calls backend design invoker = []
  unasked : ∀ other : Backend δ ι,
    executor.run other design invoker = executor.run backend design invoker

/-- A call is refused for a problem and changes nothing. -/
def Refuses (executor : Executor) (problem : Problem) : Call → Prop
  | .explain => executor.explain = (executor, .error problem)
  | .run backend design invoker => executor.RefusesRun problem backend design invoker

variable {executor : Executor}

/-! ## One call -/

/-- An executor that was used refuses to run, and nothing changes. -/
theorem run_of_used (hused : executor.state ≠ .pending) (backend : Backend δ ι) (design : δ)
    (invoker : ι) :
    executor.run backend design invoker =
      { executor := executor
        design := design
        invoker := invoker
        result := .error executor.alreadyRan } := by
  simp only [run, begin?, hused, if_false]

/-- An executor that has been used refuses every call. -/
theorem refuses_of_used (hused : executor.state ≠ .pending) (call : Call) :
    executor.Refuses executor.alreadyRan call := by
  cases call with
  | explain =>
      show executor.explain = _
      simp only [explain, begin?, hused, if_false]
  | run backend design invoker =>
      refine ⟨run_of_used hused backend design invoker, ?_, ?_⟩
      · rw [calls, run_of_used hused]
      · intro other
        rw [run_of_used hused, run_of_used hused]

/-- A refused call leaves the executor as it is. -/
theorem Refuses.perform_eq {problem : Problem} {call : Call} (h : executor.Refuses problem call) :
    executor.perform call = (executor, .error problem) := by
  cases call with
  | explain => exact h
  | run backend design invoker =>
      have hrun : executor.RefusesRun problem backend design invoker := h
      rw [perform, hrun.unchanged]

/-- A call that succeeds leaves the executor completed, and one that fails leaves it aborted. -/
def Settled (call : Executor × Except Problem Unit) : Prop :=
  call.1.state = .completed ∧ call.2 = .ok () ∨
    call.1.state = .aborted ∧ ∃ problem, call.2 = .error problem

/-- A run settles a pending executor, by whichever of its exits it leaves. -/
theorem settled_run (hpending : executor.state = .pending) (backend : Backend δ ι) (design : δ)
    (invoker : ι) : Settled (executor.perform (.run backend design invoker)) := by
  rw [perform]
  cases hmode : executor.script.mode with
  | explain =>
      rw [run_of_explain backend hpending hmode, explain_of_pending hpending]
      exact .inl ⟨rfl, rfl⟩
  | execute =>
      cases hready : backend.checkReady design with
      | error reason =>
          rw [run_of_not_ready hpending hmode hready]
          exact .inr ⟨rfl, _, rfl⟩
      | ok =>
          rw [run_of_ready hpending hmode hready]
          -- The pass over the stages decides, and state and result both follow its problem.
          cases hproblem : (runStages backend executor.selectedStages design invoker).problem with
          | none => exact .inl ⟨rfl, by simp [Pass.result, hproblem]⟩
          | some problem => exact .inr ⟨rfl, problem, by simp [Pass.result, hproblem]⟩

/-- The first call settles the executor. -/
theorem settled_perform (hpending : executor.state = .pending) (call : Call) :
    Settled (executor.perform call) := by
  cases call with
  | explain =>
      rw [perform, explain_of_pending hpending]
      exact .inl ⟨rfl, rfl⟩
  | run backend design invoker => exact settled_run hpending backend design invoker

namespace Settled

variable {call : Executor × Except Problem Unit}

/-- A settled call leaves the executor completed or aborted. -/
theorem state_eq (h : Settled call) : call.1.state = .completed ∨ call.1.state = .aborted :=
  h.imp And.left And.left

/-- A settled call leaves the executor aborted exactly if it failed. -/
theorem aborted_iff (h : Settled call) :
    call.1.state = .aborted ↔ ∃ problem, call.2 = .error problem := by
  rcases h with ⟨hstate, hresult⟩ | ⟨hstate, hresult⟩
  · simp [hstate, hresult]
  · exact iff_of_true hstate hresult

/-- A settled call leaves the executor used. -/
theorem used (h : Settled call) : call.1.state ≠ .pending := by
  rcases h.state_eq with hstate | hstate <;> simp [hstate]

/-- A settled call does not leave the executor running. -/
theorem not_running (h : Settled call) : call.1.state ≠ .running := by
  rcases h.state_eq with hstate | hstate <;> simp [hstate]

end Settled

/-! ## Calls in turn -/

/-- Calls on an executor that has been used leave it as it is. -/
theorem after_calls_of_used (hused : executor.state ≠ .pending) (calls : List Call) :
    executor.afterCalls calls = executor := by
  induction calls with
  | nil => rfl
  | cons call rest ih =>
      show (executor.perform call).1.afterCalls rest = executor
      rw [(refuses_of_used hused call).perform_eq]
      exact ih

/-- The first call on an executor completes it or aborts it, and it aborts it exactly if the call
fails. Every later call finds the executor as the first one left it and is refused with the name of
its state. Between calls the executor is never seen running. -/
theorem runs_at_most_once {script : Script} {range : StageRange}
    (hselect : select script range = .ok executor) (first : Call) (later : List Call) :
    let used := (executor.perform first).1
    (used.state = .completed ∨ used.state = .aborted) ∧
      (used.state = .aborted ↔ ∃ problem, (executor.perform first).2 = .error problem) ∧
      (∀ earlier, earlier <+: later → executor.afterCalls (first :: earlier) = used) ∧
      (∀ call ∈ later, used.Refuses
        (.precondition ("script executor already ran (state: " ++ used.state.name ++ ")")) call) ∧
      ∀ calls, calls <+: first :: later → (executor.afterCalls calls).state ≠ .running := by
  intro used
  have hpending : executor.state = .pending := (fresh_of_select hselect).2
  have hsettled : Settled (executor.perform first) := settled_perform hpending first
  have hstays : ∀ earlier, executor.afterCalls (first :: earlier) = used :=
    fun earlier => after_calls_of_used hsettled.used earlier
  refine ⟨hsettled.state_eq, hsettled.aborted_iff, fun earlier _ => hstays earlier,
    fun call _ => refuses_of_used hsettled.used call, ?_⟩
  intro calls hcalls
  rcases List.prefix_cons_iff.mp hcalls with rfl | ⟨earlier, rfl, -⟩
  · show executor.state ≠ .running
    simp [hpending]
  · rw [hstays]
    exact hsettled.not_running

/-- The second invocation fails. The executor then refuses a listing, and a run with a design and an
invoker of other types. -/
theorem runs_at_most_once_after_failure :
    let script : Script :=
      ⟨.execute, [⟨"prepare", [⟨"proc", .always⟩]⟩, ⟨"check", [⟨"stat", .always⟩]⟩]⟩
    let executor : Executor := { script := script, start := 0, stop := 1 }
    let first : Call := .run Recorder.backend { loaded := true } { failAt := some 2 }
    let accepting : Backend (List String) Unit :=
      ⟨fun _ => .ok (), fun design _ invocation => ⟨invocation.command :: design, (), .ok (), []⟩⟩
    let later : List Call := [.explain, .run accepting ["top"] ()]
    let refusal : Problem := .precondition "script executor already ran (state: Aborted)"
    select script .everything = .ok executor ∧
      (executor.perform first).1.state = .aborted ∧
      executor.afterCalls (first :: later) = (executor.perform first).1 ∧
      (executor.perform first).1.Refuses refusal .explain ∧
      (executor.perform first).1.RefusesRun refusal accepting ["top"] () := by
  intro script executor first accepting later refusal
  have hselect : select script .everything = .ok executor := rfl
  obtain ⟨-, haborted, hstays, hrefuses, -⟩ := runs_at_most_once hselect first later
  exact ⟨hselect, haborted.mpr ⟨_, rfl⟩, hstays later (List.prefix_refl later),
    hrefuses .explain (.head _), hrefuses (.run accepting ["top"] ()) (.tail _ (.head _))⟩

end StagedSynthesis.Executor
