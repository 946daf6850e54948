import StagedSynthesis.Proofs.Runs
import StagedSynthesis.Recorder

/-!
# How a run ends

A run of a fresh executor over a ready design ends in one of two ways. Either every selected step
was accepted, or the run aborted in place at the first step that was refused. Read
`run_aborts_in_place` first: in both cases the steps that were tried are a front part of what a
listing shows, and design, invoker, transcript, state and result agree on which part that is.
-/

namespace StagedSynthesis

variable {δ ι : Type}

/-- A run that tried every step of some stages, all of them with success. -/
structure Run.Completed (run : Run δ ι) (backend : Backend δ ι) (stages : List Stage) (design : δ)
    (invoker : ι) : Prop where
  accepts : backend.Accepts (invocationsOf (stepsOf stages)) design invoker
  transcript : run.executor.transcript =
    ⟨stages.map Stage.label, (stepsOf stages).map (Step.entry .invoked)⟩
  state : run.executor.state = .completed
  result : run.result = .ok ()

/-- A run that stopped at a position, where a step was refused for the first time. -/
structure Run.AbortedAt (run : Run δ ι) (backend : Backend δ ι) {stages : List Stage}
    (position : Position stages) (design : δ) (invoker : ι) (cause : String) : Prop where
  fails : backend.FailsAt position design invoker cause
  transcript : run.executor.transcript =
    ⟨position.labels, position.earlier.map (Step.entry .invoked) ++ [position.step.entry .failed]⟩
  state : run.executor.state = .aborted
  result : run.result =
    .error (.operationFailed position.stage.label position.invocation.command cause)

/-- A run over a design handed over exactly some invocations, one after the other. -/
structure Executor.HandsOver (executor : Executor) (backend : Backend δ ι) (design : δ)
    (invoker : ι) (invocations : List Invocation) : Prop where
  calls : executor.calls backend design invoker = invocations
  left : ((executor.run backend design invoker).design,
      (executor.run backend design invoker).invoker) =
    backend.after invocations design invoker

/-- A fresh run over a ready design comes to a position, with every earlier step accepted, and finds
there some design and invoker. -/
structure Executor.Reaches (executor : Executor) (backend : Backend δ ι) (design : δ)
    (invoker : ι) (position : Position executor.selectedStages) (found : δ × ι) : Prop where
  pending : executor.state = .pending
  executing : executor.script.mode = .execute
  ready : backend.checkReady design = .ok ()
  accepts : backend.Accepts (invocationsOf position.earlier) design invoker
  found : backend.after (invocationsOf position.earlier) design invoker = found

namespace Executor

variable {backend : Backend δ ι} {executor : Executor} {design : δ} {invoker : ι}

/-- A run hands over what its pass hands over, as the log of that pass tells. -/
theorem hands_over_of_pass {invocations : List Invocation} (hstate : executor.state = .pending)
    (hmode : executor.script.mode = .execute) (hready : backend.checkReady design = .ok ())
    (hpass : ((runStages backend.logged executor.selectedStages design (invoker, [])).design,
        (runStages backend.logged executor.selectedStages design (invoker, [])).invoker) =
      backend.logged.after invocations design (invoker, [])) :
    executor.HandsOver backend design invoker invocations := by
  have hreadyLogged : backend.logged.checkReady design = .ok () := hready
  have hrun := run_of_ready hstate hmode hreadyLogged (invoker, [])
  have hview : (executor.run backend.logged design (invoker, [])).mapInvoker Prod.fst =
      executor.run backend design invoker := run_logged backend executor design (invoker, [])
  rw [Backend.after_logged, List.nil_append] at hpass
  refine ⟨?_, ?_⟩
  · rw [calls, hrun]
    exact congrArg (fun left => left.2.2) hpass
  · rw [← hview, hrun]
    exact congrArg (fun left => (left.1, left.2.1)) hpass

/-- A run whose steps are all accepted completes and hands over every one of them. -/
theorem run_of_accepts (hstate : executor.state = .pending)
    (hmode : executor.script.mode = .execute) (hready : backend.checkReady design = .ok ())
    (haccepts : backend.Accepts (invocationsOf (stepsOf executor.selectedStages)) design invoker) :
    (executor.run backend design invoker).Completed backend executor.selectedStages design invoker ∧
      executor.HandsOver backend design invoker
        (invocationsOf (stepsOf executor.selectedStages)) := by
  obtain ⟨-, hproblem, htranscript⟩ := run_stages_of_accepts haccepts
  have hacceptsLogged := (backend.accepts_logged _ design invoker []).mpr haccepts
  obtain ⟨hafter, -, -⟩ := run_stages_of_accepts hacceptsLogged
  refine ⟨?_, hands_over_of_pass hstate hmode hready hafter⟩
  rw [run_of_ready hstate hmode hready]
  refine ⟨haccepts, htranscript, ?_, ?_⟩
  · simp [hproblem]
  · simp [Pass.result, hproblem]

/-- A run that meets a step which is refused aborts there and hands over nothing more. -/
theorem run_of_fails_at (hstate : executor.state = .pending)
    (hmode : executor.script.mode = .execute) (hready : backend.checkReady design = .ok ())
    {position : Position executor.selectedStages} {cause : String}
    (hfails : backend.FailsAt position design invoker cause) :
    (executor.run backend design invoker).AbortedAt backend position design invoker cause ∧
      executor.HandsOver backend design invoker
        (invocationsOf (position.earlier ++ [position.step])) := by
  obtain ⟨-, hproblem, htranscript⟩ := run_stages_of_fails_at hfails
  obtain ⟨hafter, -, -⟩ := run_stages_of_fails_at (hfails.logged [])
  refine ⟨?_, hands_over_of_pass hstate hmode hready hafter⟩
  rw [run_of_ready hstate hmode hready]
  refine ⟨hfails, htranscript, ?_, ?_⟩
  · simp [hproblem]
  · simp [Pass.result, hproblem]

/-- A run aborts at a position that it reaches if and only if the step there is refused. -/
theorem Reaches.aborted_at_iff {position : Position executor.selectedStages} {found : δ × ι}
    (h : executor.Reaches backend design invoker position found) {cause : String} :
    (executor.run backend design invoker).AbortedAt backend position design invoker cause ↔
      (backend.invoke found.1 found.2 position.invocation).result = .error cause := by
  rw [← h.found]
  constructor
  · intro haborted
    exact haborted.fails.refused
  · intro hrefused
    exact (run_of_fails_at h.pending h.executing h.ready ⟨h.accepts, hrefused⟩).1

end Executor

/-- The design after some texts have been applied to it in turn. -/
def RecordedDesign.applyAll (design : RecordedDesign) (texts : List String) : RecordedDesign :=
  { design with applied := design.applied ++ texts.toArray }

/-- The first of several texts is applied first. -/
theorem RecordedDesign.apply_all_cons (design : RecordedDesign) (text : String)
    (rest : List String) : design.applyAll (text :: rest) = (design.apply text).applyAll rest := by
  simp [applyAll, apply]

namespace Recorder

/-- The recorder after some more calls. -/
def counted (recorder : Recorder) (calls : Nat) : Recorder :=
  { recorder with calls := recorder.calls + calls }

/-- Counting calls adds to the calls. -/
@[simp]
theorem calls_counted (recorder : Recorder) (calls : Nat) :
    (recorder.counted calls).calls = recorder.calls + calls :=
  rfl

/-- Calls counted one after the other are counted together. -/
theorem counted_counted (recorder : Recorder) (first second : Nat) :
    (recorder.counted first).counted second = recorder.counted (first + second) := by
  simp only [counted, Nat.add_assoc]

/-- A call before the one to fail at applies the command. -/
theorem invoke_of_ne (design : RecordedDesign) {recorder : Recorder} (invocation : Invocation)
    (h : recorder.failAt ≠ some (recorder.calls + 1)) :
    backend.invoke design recorder invocation =
      { design := design.apply invocation.command
        invoker := recorder.counted 1
        result := .ok () } := by
  simp [backend, invoke, h, counted]

/-- The call to fail at changes nothing but the count. -/
theorem invoke_of_eq (design : RecordedDesign) {recorder : Recorder} (invocation : Invocation)
    (h : recorder.failAt = some (recorder.calls + 1)) :
    backend.invoke design recorder invocation =
      { design := design
        invoker := recorder.counted 1
        result := .error ("injected failure in `" ++ invocation.name ++ "`")
        events := [.failureInjected (recorder.calls + 1)] } := by
  simp [backend, invoke, h, counted]

/-- Before the call at which it fails, a recorder applies every command and counts it. -/
theorem accepts_below {limit : Nat} (invocations : List Invocation) (design : RecordedDesign)
    {recorder : Recorder} (hlimit : recorder.failAt = some limit)
    (hbelow : recorder.calls + invocations.length < limit) :
    backend.Accepts invocations design recorder ∧
      backend.after invocations design recorder =
        (design.applyAll (invocations.map Invocation.command),
          recorder.counted invocations.length) := by
  induction invocations generalizing design recorder with
  | nil => simp [Backend.Accepts, Backend.after, RecordedDesign.applyAll, counted]
  | cons invocation rest ih =>
      rw [List.length_cons] at hbelow
      have hcall : recorder.failAt ≠ some (recorder.calls + 1) := by
        rw [hlimit]
        intro h
        have := Option.some.inj h
        omega
      have hnext : (recorder.counted 1).calls + rest.length < limit := by
        rw [calls_counted]
        omega
      have hkept : (recorder.counted 1).failAt = some limit := hlimit
      obtain ⟨haccepts, hafter⟩ := ih (design.apply invocation.command) hkept hnext
      simp only [Backend.Accepts, Backend.after, invoke_of_ne design invocation hcall]
      refine ⟨⟨trivial, haccepts⟩, ?_⟩
      rw [hafter, counted_counted, List.map_cons, RecordedDesign.apply_all_cons, List.length_cons,
        Nat.add_comm 1]

/-- A recorder that is to fail at a call refuses exactly that step of some stages, and the design
keeps what the steps before it applied. -/
theorem fails_at {stages : List Stage} {limit : Nat} (hfirst : 1 ≤ limit)
    (hlast : limit ≤ (stepsOf stages).length) (design : RecordedDesign) :
    ∃ position : Position stages,
      backend.FailsAt position design { failAt := some limit }
        ("injected failure in `" ++ position.invocation.name ++ "`") ∧
      backend.after (invocationsOf (position.earlier ++ [position.step])) design
          { failAt := some limit } =
        (design.applyAll
            ((invocationsOf ((stepsOf stages).take (limit - 1))).map Invocation.command),
          { failAt := some limit, calls := limit }) := by
  obtain ⟨before, rfl⟩ : ∃ before, limit = before + 1 := ⟨limit - 1, by omega⟩
  have hdivided := (List.take_append_drop before (stepsOf stages)).symm
  rw [List.drop_eq_getElem_cons hlast] at hdivided
  -- As many steps stand before the position as calls succeed.
  obtain ⟨position, hearlier, -, -⟩ := Position.exists_of_steps_eq hdivided
  have hlength : (invocationsOf position.earlier).length = before := by
    rw [hearlier, invocationsOf, List.length_map, List.length_take]
    omega
  let recorder : Recorder := { failAt := some (before + 1) }
  have hbelow : recorder.calls + (invocationsOf position.earlier).length < before + 1 := by
    rw [hlength, show recorder.calls = 0 from rfl]
    omega
  obtain ⟨haccepts, hafter⟩ := accepts_below _ design (show recorder.failAt = _ from rfl) hbelow
  rw [hlength] at hafter
  have hcall : (recorder.counted before).failAt = some ((recorder.counted before).calls + 1) := by
    simp [counted, recorder]
  have hreply := invoke_of_eq
    (design.applyAll ((invocationsOf position.earlier).map Invocation.command))
    position.invocation hcall
  refine ⟨position, ⟨haccepts, ?_⟩, ?_⟩
  · rw [Backend.replyAfter, hafter, hreply]
  · rw [invocations_of_append]
    refine (Backend.after_concat _ _ _ _ _).trans ?_
    rw [Backend.replyAfter, hafter]
    refine (congrArg (fun reply => (reply.design, reply.invoker)) hreply).trans ?_
    rw [hearlier, counted_counted]
    simp [counted, recorder]

end Recorder

namespace Executor

/-- A run tries a front part of the steps that a listing of the same executor shows. It hands
exactly these to the back end, and it completes if that is all of them and every one succeeded;
otherwise it aborts at the last of them, which is the first that was refused. A recorder that is
to fail at a call is thus called that often, and the design gains the commands before it. -/
theorem run_aborts_in_place {script : Script} {range : StageRange} {executor : Executor}
    (hmode : script.mode = .execute) (hselect : select script range = .ok executor)
    (backend : Backend δ ι) {design : δ} (hready : backend.checkReady design = .ok ())
    (invoker : ι) :
    let listed := stepsOf executor.selectedStages
    let run := executor.run backend design invoker
    (executor.explain.2 = .ok () ∧
        executor.explain.1.transcript.entries = listed.map (Step.entry .listed)) ∧
      (∃ tried untried, listed = tried ++ untried ∧
        executor.HandsOver backend design invoker (invocationsOf tried) ∧
        ((untried = [] ∧ run.Completed backend executor.selectedStages design invoker) ∨
          ∃ (position : Position executor.selectedStages) (cause : String),
            tried = position.earlier ++ [position.step] ∧
            run.AbortedAt backend position design invoker cause)) ∧
      ∀ (recorded : RecordedDesign) (limit : Nat), recorded.loaded = true → 1 ≤ limit →
        limit ≤ listed.length →
        let run := executor.run Recorder.backend recorded { failAt := some limit }
        run.invoker.calls = limit ∧
          run.design =
            recorded.applyAll
              ((invocationsOf (listed.take (limit - 1))).map Invocation.command) := by
  intro listed run
  obtain ⟨rfl, hstate⟩ := fresh_of_select hselect
  refine ⟨?_, ?_, ?_⟩
  · rw [explain_of_pending hstate]
    exact ⟨rfl, rfl⟩
  · rcases backend.accepts_or_fails_at _ design invoker with haccepts | ⟨position, cause, hfails⟩
    · obtain ⟨hcompleted, hhands⟩ := run_of_accepts hstate hmode hready haccepts
      exact ⟨listed, [], (List.append_nil listed).symm, hhands, .inl ⟨rfl, hcompleted⟩⟩
    · obtain ⟨haborted, hhands⟩ := run_of_fails_at hstate hmode hready hfails
      refine ⟨position.earlier ++ [position.step], position.remaining, ?_, hhands,
        .inr ⟨position, cause, rfl, haborted⟩⟩
      rw [List.append_assoc]
      exact position.steps_eq
  · intro recorded limit hloaded hfirst hlast
    have hrecorded : Recorder.backend.checkReady recorded = .ok () := by
      simp [Recorder.backend, RecordedDesign.checkReady, hloaded]
    obtain ⟨position, hfails, hafter⟩ := Recorder.fails_at hfirst hlast recorded
    obtain ⟨-, hhands⟩ := run_of_fails_at hstate hmode hrecorded hfails
    obtain ⟨hdesign, hinvoker⟩ := Prod.ext_iff.mp (hhands.left.trans hafter)
    exact ⟨congrArg Recorder.calls hinvoker, hdesign⟩

/-- A stage without invocations between two others, and a failure in the last of them. -/
theorem run_aborts_in_place_behind_empty_stage :
    let script : Script :=
      ⟨.execute,
        [⟨"prepare", [⟨"proc", .always⟩, ⟨"flatten", .only .pp3⟩]⟩, ⟨"coarse", []⟩,
          ⟨"check", [⟨"stat", .always⟩, ⟨"check", .always⟩]⟩]⟩
    let executor : Executor := { script := script, start := 0, stop := 2 }
    select script .everything = .ok executor ∧
      executor.explain.1.transcript.entries =
        [⟨"prepare", "proc", none, .listed⟩, ⟨"prepare", "flatten", some "for pp3", .listed⟩,
          ⟨"check", "stat", none, .listed⟩, ⟨"check", "check", none, .listed⟩] ∧
      let run := executor.run Recorder.backend { loaded := true } { failAt := some 3 }
      run.executor.transcript =
          ⟨["prepare", "coarse", "check"],
            [⟨"prepare", "proc", none, .invoked⟩, ⟨"prepare", "flatten", some "for pp3", .invoked⟩,
              ⟨"check", "stat", none, .failed⟩]⟩ ∧
        run.executor.state = .aborted ∧
        run.result = .error (.operationFailed "check" "stat" "injected failure in `stat`") ∧
        run.invoker.calls = 3 ∧
        run.design = { loaded := true, applied := #["proc", "flatten"] } := by
  intro script executor
  have hselect : select script .everything = .ok executor := rfl
  have hready : Recorder.backend.checkReady { loaded := true } = .ok () := rfl
  obtain ⟨⟨-, hlisted⟩, -, hrecorder⟩ :=
    run_aborts_in_place rfl hselect Recorder.backend hready { failAt := some 3 }
  obtain ⟨hcalls, hdesign⟩ := hrecorder { loaded := true } 3 rfl (by decide) (by decide)
  refine ⟨hselect, hlisted.trans ?_, ?_, rfl, ?_, hcalls, hdesign⟩
  · decide
  · decide
  · rfl

end Executor

end StagedSynthesis
