import StagedSynthesis.Proofs.Pass

/-!
# The steps of a run

A step is an invocation together with the label of its stage, and the steps of some stages are what
a listing of them shows. A back end is followed through a list of invocations by `Backend.after`,
the design and the invoker it leaves behind, and `Backend.Accepts`, which says that it refuses none
of them. Every run either has all its steps accepted or stops at the position of the first step
that is refused (`accepts_or_fails_at`), and the two lemmas `run_stages_of_accepts` and
`run_stages_of_fails_at` say what the run leaves behind in each case.
-/

namespace StagedSynthesis

/-- An invocation and the label of the stage it belongs to. -/
structure Step where
  stage : String
  invocation : Invocation

/-- The entry of a step in a transcript: where the step stands, its command and its condition, and
what became of it. -/
def Step.entry (outcome : Outcome) (step : Step) : Entry where
  stage := step.stage
  command := step.invocation.command
  annotation := step.invocation.annotation
  outcome := outcome

/-- What a run records of an invocation is the entry of its step. -/
theorem Step.record_eq (stage : String) (outcome : Outcome) (invocation : Invocation) :
    Entry.record stage outcome invocation = Step.entry outcome ⟨stage, invocation⟩ :=
  rfl

/-- The steps of one stage in order. -/
def Stage.steps (stage : Stage) : List Step :=
  stage.invocations.map (Step.mk stage.label)

/-- The steps of some stages in order. -/
def stepsOf (stages : List Stage) : List Step :=
  stages.flatMap Stage.steps

/-- The invocations of some steps in order. -/
def invocationsOf (steps : List Step) : List Invocation :=
  steps.map Step.invocation

/-- The invocations of steps one after the other are those of each. -/
@[simp]
theorem invocations_of_append (first second : List Step) :
    invocationsOf (first ++ second) = invocationsOf first ++ invocationsOf second :=
  List.map_append

/-- The steps of a stage have its invocations. -/
@[simp]
theorem invocations_of_stage_steps (stage : Stage) :
    invocationsOf stage.steps = stage.invocations := by
  simp [invocationsOf, Stage.steps, Function.comp_def]

/-- The steps of stages one after the other are those of each. -/
@[simp]
theorem steps_of_append (first second : List Stage) :
    stepsOf (first ++ second) = stepsOf first ++ stepsOf second :=
  List.flatMap_append

/-- The steps of a first stage stand in front. -/
@[simp]
theorem steps_of_cons (stage : Stage) (rest : List Stage) :
    stepsOf (stage :: rest) = stage.steps ++ stepsOf rest :=
  rfl

/-- A listing has one entry for each step and reaches every stage. -/
theorem Executor.listing_eq (stages : List Stage) :
    Executor.listing stages =
      ⟨stages.map Stage.label, (stepsOf stages).map (Step.entry .listed)⟩ := by
  simp only [Executor.listing, stepsOf, Stage.steps, List.map_flatMap, List.map_map]
  rfl

/-- A place in some stages: one invocation of one of them, and what stands before and after it. -/
structure Position (stages : List Stage) where
  before : List Stage
  stage : Stage
  later : List Stage
  done : List Invocation
  invocation : Invocation
  rest : List Invocation
  stages_eq : stages = before ++ stage :: later
  invocations_eq : stage.invocations = done ++ invocation :: rest

namespace Position

variable {stages : List Stage}

/-- The step at the position. -/
def step (position : Position stages) : Step :=
  ⟨position.stage.label, position.invocation⟩

/-- The steps before the position. -/
def earlier (position : Position stages) : List Step :=
  stepsOf position.before ++ position.done.map (Step.mk position.stage.label)

/-- The steps after the position. -/
def remaining (position : Position stages) : List Step :=
  position.rest.map (Step.mk position.stage.label) ++ stepsOf position.later

/-- The labels of the stages up to and including the one of the position. -/
def labels (position : Position stages) : List String :=
  (position.before ++ [position.stage]).map Stage.label

/-- A position divides the steps. -/
theorem steps_eq (position : Position stages) :
    stepsOf stages = position.earlier ++ position.step :: position.remaining := by
  have hstages := congrArg stepsOf position.stages_eq
  rw [steps_of_append, steps_of_cons, Stage.steps, position.invocations_eq] at hstages
  simpa [earlier, remaining, step] using hstages

/-- A position in some stages, seen with one more stage before them. -/
def behind (stage : Stage) (position : Position stages) : Position (stage :: stages) :=
  { position with
    before := stage :: position.before
    stages_eq := by rw [List.cons_append, ← position.stages_eq] }

/-- Behind a further stage, all its steps are earlier. -/
theorem earlier_behind (stage : Stage) (position : Position stages) :
    (position.behind stage).earlier = stage.steps ++ position.earlier := by
  rw [earlier, earlier, ← List.append_assoc]
  rfl

/-- Every division of the steps is made by a position. -/
theorem exists_of_steps_eq {earlier remaining : List Step} {step : Step}
    (h : stepsOf stages = earlier ++ step :: remaining) :
    ∃ position : Position stages, position.earlier = earlier ∧ position.step = step ∧
      position.remaining = remaining := by
  induction stages generalizing earlier with
  | nil => simp [stepsOf] at h
  | cons stage rest ih =>
      -- The division falls into the first stage or behind it.
      rw [steps_of_cons, List.append_eq_append_iff] at h
      rcases h with ⟨between, hearlier, hrest⟩ | ⟨between, hstage, hrest⟩
      · obtain ⟨position, rfl, rfl, rfl⟩ := ih hrest
        exact ⟨position.behind stage, (position.earlier_behind stage).trans hearlier.symm, rfl, rfl⟩
      · cases between with
        | nil =>
            rw [List.nil_append] at hrest
            have hbehind : stepsOf rest = [] ++ step :: remaining := hrest.symm
            obtain ⟨position, hbefore, rfl, rfl⟩ := ih hbehind
            refine ⟨position.behind stage, ?_, rfl, rfl⟩
            rw [position.earlier_behind stage, hbefore, hstage, List.append_nil, List.append_nil]
        | cons first others =>
            obtain ⟨rfl, rfl⟩ := List.cons.inj hrest
            obtain ⟨done, ahead, hsplit, rfl, hahead⟩ := List.map_eq_append_iff.mp hstage
            obtain ⟨invocation, left, rfl, rfl, rfl⟩ := List.map_eq_cons_iff.mp hahead
            exact ⟨⟨[], stage, rest, done, invocation, left, rfl, hsplit⟩, rfl, rfl, rfl⟩

end Position

variable {δ ι : Type}

namespace Backend

variable (backend : Backend δ ι)

/-- The design and the invoker after a back end has been handed some invocations in turn. -/
def after : List Invocation → δ → ι → δ × ι
  | [], design, invoker => (design, invoker)
  | invocation :: rest, design, invoker =>
      let reply := backend.invoke design invoker invocation
      after rest reply.design reply.invoker

/-- Every one of some invocations, handed to a back end in turn, succeeds. -/
def Accepts : List Invocation → δ → ι → Prop
  | [], _, _ => True
  | invocation :: rest, design, invoker =>
      let reply := backend.invoke design invoker invocation
      reply.result = .ok () ∧ Accepts rest reply.design reply.invoker

/-- What a back end answers to an invocation after it has been handed some others. -/
def replyAfter (earlier : List Invocation) (invocation : Invocation) (design : δ) (invoker : ι) :
    Reply δ ι :=
  backend.invoke (backend.after earlier design invoker).1 (backend.after earlier design invoker).2
    invocation

/-- The step at a position is the first that a back end refuses. -/
structure FailsAt {stages : List Stage} (position : Position stages) (design : δ) (invoker : ι)
    (cause : String) : Prop where
  accepts : backend.Accepts (invocationsOf position.earlier) design invoker
  refused : (backend.replyAfter (invocationsOf position.earlier) position.invocation design
    invoker).result = .error cause

/-- Invocations one after the other start with what the earlier ones leave. -/
@[simp]
theorem after_append (first second : List Invocation) (design : δ) (invoker : ι) :
    backend.after (first ++ second) design invoker =
      backend.after second (backend.after first design invoker).1
        (backend.after first design invoker).2 := by
  induction first generalizing design invoker with
  | nil => rfl
  | cons invocation rest ih => exact ih _ _

/-- Invocations one after the other are accepted if each are, starting with what the earlier ones
leave. -/
@[simp]
theorem accepts_append (first second : List Invocation) (design : δ) (invoker : ι) :
    backend.Accepts (first ++ second) design invoker ↔
      backend.Accepts first design invoker ∧
        backend.Accepts second (backend.after first design invoker).1
          (backend.after first design invoker).2 := by
  induction first generalizing design invoker with
  | nil => exact (and_iff_right trivial).symm
  | cons invocation rest ih => exact (and_congr_right fun _ => ih _ _).trans and_assoc.symm

/-- Handing over one more invocation ends where the reply to it leaves off. -/
theorem after_concat (earlier : List Invocation) (invocation : Invocation) (design : δ)
    (invoker : ι) :
    backend.after (earlier ++ [invocation]) design invoker =
      ((backend.replyAfter earlier invocation design invoker).design,
        (backend.replyAfter earlier invocation design invoker).invoker) :=
  backend.after_append earlier [invocation] design invoker

/-- A back end accepts all of some steps, or one of them is the first that it refuses. -/
theorem accepts_or_refuses (steps : List Step) (design : δ) (invoker : ι) :
    backend.Accepts (invocationsOf steps) design invoker ∨
      ∃ earlier step remaining cause, steps = earlier ++ step :: remaining ∧
        backend.Accepts (invocationsOf earlier) design invoker ∧
        (backend.replyAfter (invocationsOf earlier) step.invocation design invoker).result =
          .error cause := by
  induction steps generalizing design invoker with
  | nil => exact .inl trivial
  | cons step rest ih =>
      cases hresult : (backend.invoke design invoker step.invocation).result with
      | error cause => exact .inr ⟨[], step, rest, cause, rfl, trivial, hresult⟩
      | ok =>
          rcases ih (backend.invoke design invoker step.invocation).design
            (backend.invoke design invoker step.invocation).invoker with hrest | hrest
          · exact .inl ⟨hresult, hrest⟩
          · obtain ⟨earlier, failed, remaining, cause, rfl, haccepts, hrefused⟩ := hrest
            exact .inr ⟨step :: earlier, failed, remaining, cause, rfl, ⟨hresult, haccepts⟩,
              hrefused⟩

/-- A back end accepts all steps of some stages, or fails at a position in them. -/
theorem accepts_or_fails_at (stages : List Stage) (design : δ) (invoker : ι) :
    backend.Accepts (invocationsOf (stepsOf stages)) design invoker ∨
      ∃ (position : Position stages) (cause : String),
        backend.FailsAt position design invoker cause := by
  refine (backend.accepts_or_refuses (stepsOf stages) design invoker).imp_right ?_
  rintro ⟨earlier, step, remaining, cause, hsteps, haccepts, hrefused⟩
  obtain ⟨position, rfl, rfl, rfl⟩ := Position.exists_of_steps_eq hsteps
  exact ⟨position, cause, haccepts, hrefused⟩

end Backend

namespace Executor

variable {backend : Backend δ ι}

/-- A stage whose invocations are accepted is carried out and recorded as a whole. -/
theorem run_invocations_of_accepts (label : String) {invocations : List Invocation} {design : δ}
    {invoker : ι} (haccepts : backend.Accepts invocations design invoker) :
    let pass := runInvocations backend label invocations design invoker
    (pass.design, pass.invoker) = backend.after invocations design invoker ∧
      pass.problem = none ∧
      pass.transcript = ⟨[], invocations.map (Entry.record label .invoked)⟩ := by
  induction invocations generalizing design invoker with
  | nil => exact ⟨rfl, rfl, rfl⟩
  | cons invocation rest ih =>
      obtain ⟨hresult, hrest⟩ := haccepts
      obtain ⟨hafter, hproblem, htranscript⟩ := ih hrest
      simp only [runInvocations, hresult]
      exact ⟨hafter, hproblem, by rw [htranscript]; rfl⟩

/-- Stages whose steps are accepted are carried out and recorded as a whole. -/
theorem run_stages_of_accepts {stages : List Stage} {design : δ} {invoker : ι}
    (haccepts : backend.Accepts (invocationsOf (stepsOf stages)) design invoker) :
    let pass := runStages backend stages design invoker
    (pass.design, pass.invoker) =
        backend.after (invocationsOf (stepsOf stages)) design invoker ∧
      pass.problem = none ∧
      pass.transcript =
        ⟨stages.map Stage.label, (stepsOf stages).map (Step.entry .invoked)⟩ := by
  induction stages generalizing design invoker with
  | nil => exact ⟨rfl, rfl, rfl⟩
  | cons stage rest ih =>
      rw [steps_of_cons, invocations_of_append, invocations_of_stage_steps,
        Backend.accepts_append] at haccepts
      obtain ⟨hfirst, hrest⟩ := haccepts
      obtain ⟨hafter, hproblem, htranscript⟩ :=
        run_invocations_of_accepts stage.label hfirst
      rw [← hafter] at hrest
      obtain ⟨hafterRest, hproblemRest, htranscriptRest⟩ := ih hrest
      simp only [runStages, hproblem]
      refine ⟨?_, hproblemRest, ?_⟩
      · rw [hafterRest, steps_of_cons, invocations_of_append, invocations_of_stage_steps,
          Backend.after_append, ← hafter]
      · rw [htranscript, htranscriptRest]
        simp [Stage.steps, Function.comp_def, Step.record_eq]

/-- A stage stops at the first invocation that is refused and records it as failed. -/
theorem run_invocations_of_refused (label : String) {done : List Invocation}
    {invocation : Invocation} (rest : List Invocation) {design : δ} {invoker : ι} {cause : String}
    (haccepts : backend.Accepts done design invoker)
    (hrefused : (backend.replyAfter done invocation design invoker).result = .error cause) :
    let pass := runInvocations backend label (done ++ invocation :: rest) design invoker
    (pass.design, pass.invoker) = backend.after (done ++ [invocation]) design invoker ∧
      pass.problem = some (.operationFailed label invocation.command cause) ∧
      pass.transcript =
        ⟨[], done.map (Entry.record label .invoked) ++
          [Entry.record label .failed invocation]⟩ := by
  obtain ⟨hafter, hproblem, htranscript⟩ := run_invocations_of_accepts label haccepts
  obtain ⟨hdesign, hinvoker⟩ := Prod.ext_iff.mp hafter
  rw [Backend.replyAfter, ← hdesign, ← hinvoker] at hrefused
  rw [run_invocations_append, Pass.followed_by_of_none hproblem, Backend.after_append, ← hafter]
  simp only [runInvocations, hrefused]
  refine ⟨rfl, rfl, ?_⟩
  simp only [Pass.prepended, htranscript]
  rfl

/-- A stage that fails behind accepted stages ends the run. -/
theorem run_stages_of_stage_problem {before later : List Stage} {stage : Stage} {design : δ}
    {invoker : ι} {problem : Problem}
    (hbefore : (runStages backend before design invoker).problem = none)
    (hstage : (runStage backend stage (runStages backend before design invoker).design
      (runStages backend before design invoker).invoker).problem = some problem) :
    runStages backend (before ++ stage :: later) design invoker =
      (runStages backend before design invoker).prepended
        (runStage backend stage (runStages backend before design invoker).design
          (runStages backend before design invoker).invoker) := by
  rw [run_stages_append, Pass.followed_by_of_none hbefore, run_stages_cons,
    Pass.followed_by_of_problem hstage]

/-- A run stops at the first step that is refused. The stage of that step is the last it
reaches. -/
theorem run_stages_of_fails_at {stages : List Stage} {position : Position stages} {design : δ}
    {invoker : ι} {cause : String} (h : backend.FailsAt position design invoker cause) :
    let pass := runStages backend stages design invoker
    (pass.design, pass.invoker) =
        backend.after (invocationsOf (position.earlier ++ [position.step])) design invoker ∧
      pass.problem =
        some (.operationFailed position.stage.label position.invocation.command cause) ∧
      pass.transcript =
        ⟨position.labels,
          position.earlier.map (Step.entry .invoked) ++ [position.step.entry .failed]⟩ := by
  have hearlier : invocationsOf position.earlier =
      invocationsOf (stepsOf position.before) ++ position.done := by
    simp [Position.earlier, invocationsOf, Function.comp_def]
  obtain ⟨haccepts, hrefused⟩ := h
  rw [hearlier, Backend.accepts_append] at haccepts
  rw [hearlier, Backend.replyAfter, Backend.after_append] at hrefused
  obtain ⟨hafter, hproblem, htranscript⟩ := run_stages_of_accepts haccepts.1
  obtain ⟨hafterStage, hproblemStage, htranscriptStage⟩ :=
    run_invocations_of_refused position.stage.label position.rest haccepts.2 hrefused
  rw [← position.invocations_eq, ← hafter] at hafterStage hproblemStage htranscriptStage
  have hstages := congrArg (runStages backend · design invoker) position.stages_eq
  have hrun := hstages.trans (run_stages_of_stage_problem hproblem hproblemStage)
  rw [hrun]
  refine ⟨?_, hproblemStage, ?_⟩
  · rw [invocations_of_append, hearlier, List.append_assoc, Backend.after_append, ← hafter]
    exact hafterStage
  · simp only [Pass.prepended, runStage, htranscript, htranscriptStage]
    show Transcript.mk (_ ++ _) (_ ++ _) = _
    simp [Position.labels, Position.earlier, Position.step, Step.record_eq, Function.comp_def]

end Executor

end StagedSynthesis
