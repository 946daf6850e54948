import StagedSynthesis.Proofs.Runs
import StagedSynthesis.Recorder

/-!
# Partial runs

A span of stages can be run at once, or cut into consecutive parts that are run one after the
other, each by an executor of its own which is told its first and last label. `runInTurn` is the
second way. The main theorem, `partial_runs_compose`, says that both leave the same design and
invoker, give the same result and record the same transcript, wherever the cuts and the failures
fall, as long as the design stays ready at every cut that is reached.
-/

namespace StagedSynthesis

variable {δ ι : Type}

namespace StageRange

/-- The range from the label at one position to the label at another. -/
def spanning (labels : List String) (span : Nat × Nat) : StageRange where
  first := labels[span.1]?
  last := labels[span.2]?

/-- A known label has the position where it first stands. -/
theorem position_of_mem {labels : List String} {label : String} (h : label ∈ labels) :
    position labels label = .ok (labels.idxOf label) := by
  have hfound : labels.idxOf? label = some (labels.idxOf label) :=
    List.findIdx?_eq_some_iff_findIdx_eq.mpr ⟨List.idxOf_lt_length_of_mem h, rfl⟩
  rw [position, hfound]

/-- An unknown label has no position. -/
theorem position_of_not_mem {labels : List String} {label : String} (h : label ∉ labels) :
    position labels label = .error (.unknownStage label) := by
  rw [position, List.idxOf?_eq_none_iff.mpr h]

/-- A label is found where it first stands. -/
theorem position_eq_ok_iff {labels : List String} {label : String} {index : Nat} :
    position labels label = .ok index ↔ label ∈ labels ∧ labels.idxOf label = index := by
  by_cases hlabel : label ∈ labels
  · simp [position_of_mem hlabel, hlabel]
  · simp [position_of_not_mem hlabel, hlabel]

/-- Where labels are distinct, the label at a position is found there. -/
theorem position_get_elem {labels : List String} (hdistinct : labels.Nodup) {index : Nat}
    (hindex : index < labels.length) : position labels labels[index] = .ok index :=
  position_eq_ok_iff.mpr ⟨List.getElem_mem hindex, hdistinct.idxOf_getElem index hindex⟩

/-- A label with a position is known. -/
theorem mem_of_position {labels : List String} {label : String} {index : Nat}
    (h : position labels label = .ok index) : label ∈ labels :=
  (position_eq_ok_iff.mp h).1

/-- A position is one of the labels. -/
theorem lt_length_of_position {labels : List String} {label : String} {index : Nat}
    (h : position labels label = .ok index) : index < labels.length := by
  obtain ⟨hlabel, rfl⟩ := position_eq_ok_iff.mp h
  exact List.idxOf_lt_length_of_mem hlabel

/-- A span of distinct labels is selected by the labels at its ends. -/
theorem resolve_spanning {labels : List String} (hdistinct : labels.Nodup) {first last : Nat}
    (horder : first ≤ last) (hlast : last < labels.length) :
    (spanning labels (first, last)).resolve labels = .ok (first, last) := by
  have hfirst : first < labels.length := by omega
  have hstart := position_get_elem hdistinct hfirst
  have hstop := position_get_elem hdistinct hlast
  simp only [resolve, spanning, List.getElem?_eq_getElem hfirst, List.getElem?_eq_getElem hlast,
    hstart, hstop]
  exact if_neg (by omega)

/-- The position at which a range starts. -/
def startIn (range : StageRange) (labels : List String) : Except Problem Nat :=
  match range.first with
  | some label => position labels label
  | none => .ok 0

/-- The position at which a range ends. -/
def stopIn (range : StageRange) (labels : List String) : Except Problem Nat :=
  match range.last with
  | some label => position labels label
  | none => .ok (labels.length - 1)

/-- A range is resolved by finding its start, then its end, and comparing the two. -/
theorem resolve_eq_bind (range : StageRange) (labels : List String) :
    range.resolve labels =
      (range.startIn labels).bind fun start => (range.stopIn labels).bind fun stop =>
        if stop < start then
          .error (.invertedRange (labels[start]?.getD "") (labels[stop]?.getD ""))
        else
          .ok (start, stop) := by
  unfold resolve startIn stopIn
  cases range.first <;> cases range.last <;> rfl

/-- A range resolves to its two ends where both are found and stand in order. -/
theorem resolve_eq_ok_iff {range : StageRange} {labels : List String} {start stop : Nat} :
    range.resolve labels = .ok (start, stop) ↔
      range.startIn labels = .ok start ∧ range.stopIn labels = .ok stop ∧ start ≤ stop := by
  rw [resolve_eq_bind]
  cases range.startIn labels with
  | error problem => simp [Except.bind]
  | ok found =>
      cases range.stopIn labels with
      | error problem => simp [Except.bind]
      | ok reached =>
          simp only [Except.bind, Except.ok.injEq]
          by_cases horder : reached < found
          · simp only [if_pos horder, reduceCtorEq, false_iff]
            omega
          · simp only [if_neg horder, Except.ok.injEq, Prod.mk.injEq]
            omega

/-- A resolved range starts at or before its end, and ends inside the labels if there are any. -/
theorem bounds_of_resolve {range : StageRange} {labels : List String} {start stop : Nat}
    (h : range.resolve labels = .ok (start, stop)) :
    start ≤ stop ∧ (labels = [] ∨ stop < labels.length) := by
  obtain ⟨-, hstop, horder⟩ := resolve_eq_ok_iff.mp h
  refine ⟨horder, ?_⟩
  unfold stopIn at hstop
  cases hlast : range.last with
  | some label =>
      rw [hlast] at hstop
      exact .inr (lt_length_of_position hstop)
  | none =>
      rw [hlast] at hstop
      have hend : labels.length - 1 = stop := Except.ok.inj hstop
      cases labels with
      | nil => exact .inl rfl
      | cons label rest =>
          rw [List.length_cons] at hend ⊢
          omega

end StageRange

/-- A span cut behind one of its stages falls into two spans. -/
theorem Script.between_append (script : Script) {first middle last : Nat} (hfirst : first ≤ middle)
    (hmiddle : middle < last) :
    script.between first middle ++ script.between (middle + 1) last =
      script.between first last := by
  -- Both parts are cut from the stages up to the last one.
  let through := script.stages.take (last + 1)
  have hthrough : script.stages.take (middle + 1) = through.take (middle + 1) := by
    rw [List.take_take, Nat.min_eq_left (by omega)]
  show (script.stages.take (middle + 1)).drop first ++ through.drop (middle + 1) =
    through.drop first
  rw [hthrough, List.drop_take]
  have hrest : through.drop (middle + 1) = (through.drop first).drop (middle + 1 - first) := by
    rw [List.drop_drop, Nat.add_sub_cancel' (by omega)]
  rw [hrest, List.take_append_drop]

/-- Two passes that differ at most in what they told the log. -/
structure Pass.Agrees (first second : Pass δ ι) : Prop where
  design : first.design = second.design
  invoker : first.invoker = second.invoker
  problem : first.problem = second.problem
  transcript : first.transcript = second.transcript

/-- Passes that agree, followed by passes that agree on what is handed on, agree. -/
theorem Pass.Agrees.followed_by {first second : Pass δ ι} {next following : δ → ι → Pass δ ι}
    (h : first.Agrees second)
    (hnext : second.problem = none →
      (next second.design second.invoker).Agrees (following second.design second.invoker)) :
    (first.followedBy next).Agrees (second.followedBy following) := by
  cases hproblem : second.problem with
  | some problem =>
      have hfirst := h.problem.trans hproblem
      rw [Pass.followed_by_of_problem hfirst, Pass.followed_by_of_problem hproblem]
      exact h
  | none =>
      have hfirst := h.problem.trans hproblem
      obtain ⟨hdesign, hinvoker, hsame, htranscript⟩ := hnext hproblem
      rw [Pass.followed_by_of_none hfirst, Pass.followed_by_of_none hproblem, h.design, h.invoker]
      refine ⟨hdesign, hinvoker, hsame, ?_⟩
      show first.transcript ++ _ = second.transcript ++ _
      rw [h.transcript, htranscript]

/-- What a run left behind, as a pass. -/
def Run.toPass (run : Run δ ι) : Pass δ ι where
  design := run.design
  invoker := run.invoker
  problem :=
    match run.result with
    | .error problem => some problem
    | .ok () => none
  transcript := run.executor.transcript
  events := run.events

/-- A run ends as its pass does. -/
theorem Run.result_to_pass (run : Run δ ι) : run.toPass.result = run.result := by
  unfold toPass Pass.result
  cases run.result <;> rfl

/-- Run the stages that a range selects, with an executor of their own. -/
def runRange (script : Script) (backend : Backend δ ι) (range : StageRange) (design : δ)
    (invoker : ι) : Pass δ ι :=
  match Executor.select script range with
  | .error problem => { design := design, invoker := invoker, problem := some problem }
  | .ok executor => (executor.run backend design invoker).toPass

/-- Run ranges one after the other on the same design with the same invoker, up to the first
problem. -/
def runInTurn (script : Script) (backend : Backend δ ι) : List StageRange → δ → ι → Pass δ ι
  | [], design, invoker => { design := design, invoker := invoker }
  | range :: rest, design, invoker =>
      (runRange script backend range design invoker).followedBy (runInTurn script backend rest)

/-- The design is ready before each range that is reached. -/
def ReadyThroughout (script : Script) (backend : Backend δ ι) : List StageRange → δ → ι → Prop
  | [], _, _ => True
  | range :: rest, design, invoker =>
      let pass := runRange script backend range design invoker
      backend.checkReady design = .ok () ∧
        (pass.problem = none → ReadyThroughout script backend rest pass.design pass.invoker)

/-- Spans that follow one another without a gap, from one position to another. -/
inductive Consecutive : Nat → Nat → List (Nat × Nat) → Prop
  | last {first last : Nat} (horder : first ≤ last) : Consecutive first last [(first, last)]
  | cut {first middle last : Nat} {rest : List (Nat × Nat)} (horder : first ≤ middle)
      (hrest : Consecutive (middle + 1) last rest) :
      Consecutive first last ((first, middle) :: rest)

/-- Consecutive parts do not go backwards. -/
theorem Consecutive.first_le_last {first last : Nat} {parts : List (Nat × Nat)}
    (h : Consecutive first last parts) : first ≤ last := by
  induction h with
  | last horder => exact horder
  | cut horder _ ih => omega

variable {script : Script} {backend : Backend δ ι} {design : δ}

/-- The labels at the ends of a span select an executor for exactly its stages. -/
theorem Executor.select_spanning (hdistinct : script.labels.Nodup) {first last : Nat}
    (horder : first ≤ last) (hlast : script.labels = [] ∨ last < script.labels.length) :
    ∃ executor, select script (.spanning script.labels (first, last)) = .ok executor ∧
      executor.selectedStages = script.between first last := by
  rcases hlast with hempty | hlast
  · have hstages : script.stages = [] := List.map_eq_nil_iff.mp hempty
    refine ⟨{ script := script, start := 0, stop := 0 }, ?_, ?_⟩
    · rw [select, hempty]
      rfl
    · simp [selectedStages, Script.between, hstages]
  · refine ⟨{ script := script, start := first, stop := last }, ?_, rfl⟩
    rw [select, StageRange.resolve_spanning hdistinct horder hlast]
    rfl

/-- A run with a ready design records what a pass over the selected stages records. -/
theorem Executor.run_agrees {executor : Executor} (hstate : executor.state = .pending)
    (hmode : executor.script.mode = .execute) (hready : backend.checkReady design = .ok ())
    (invoker : ι) :
    (executor.run backend design invoker).toPass.Agrees
      (runStages backend executor.selectedStages design invoker) := by
  rw [run_of_ready hstate hmode hready]
  refine ⟨rfl, rfl, ?_, rfl⟩
  simp only [Run.toPass, Pass.result]
  cases (runStages backend executor.selectedStages design invoker).problem <;> rfl

/-- Running one span by its labels is a pass over its stages. -/
theorem run_range_agrees (hmode : script.mode = .execute) (hdistinct : script.labels.Nodup)
    {first last : Nat} (horder : first ≤ last)
    (hlast : script.labels = [] ∨ last < script.labels.length)
    (hready : backend.checkReady design = .ok ()) (invoker : ι) :
    (runRange script backend (.spanning script.labels (first, last)) design invoker).Agrees
      (Executor.runStages backend (script.between first last) design invoker) := by
  obtain ⟨executor, hselect, hstages⟩ := Executor.select_spanning hdistinct horder hlast
  obtain ⟨hscript, hstate⟩ := Executor.fresh_of_select hselect
  rw [runRange, hselect, ← hstages]
  exact Executor.run_agrees hstate (hscript ▸ hmode) hready invoker

/-- Running consecutive spans in turn is a pass over the stages of all of them. -/
theorem run_in_turn_agrees (hmode : script.mode = .execute) (hdistinct : script.labels.Nodup)
    {first last : Nat} {parts : List (Nat × Nat)} (hparts : Consecutive first last parts)
    {invoker : ι} (hlast : script.labels = [] ∨ last < script.labels.length)
    (hready : ReadyThroughout script backend (parts.map (.spanning script.labels)) design invoker) :
    (runInTurn script backend (parts.map (.spanning script.labels)) design invoker).Agrees
      (Executor.runStages backend (script.between first last) design invoker) := by
  induction hparts generalizing design invoker with
  | @last first last horder =>
      obtain ⟨hstart, -⟩ := hready
      rw [← List.append_nil (script.between first last), Executor.run_stages_append]
      refine (run_range_agrees hmode hdistinct horder hlast hstart invoker).followed_by ?_
      intro _
      exact ⟨rfl, rfl, rfl, rfl⟩
  | @cut first middle last rest horder hrest ih =>
      obtain ⟨hstart, hlater⟩ := hready
      have hmiddle := hrest.first_le_last
      have hinside : script.labels = [] ∨ middle < script.labels.length :=
        hlast.imp_right fun hstop => by omega
      have hagrees := run_range_agrees hmode hdistinct horder hinside hstart invoker
      rw [← script.between_append horder hmiddle, Executor.run_stages_append]
      refine hagrees.followed_by ?_
      -- The parts behind the cut matter only if the first part met no problem, and they start from
      -- what it left, on which both ways of running agree.
      intro hproblem
      have hreached := hlater (hagrees.problem.trans hproblem)
      rw [hagrees.design, hagrees.invoker] at hreached
      exact ih hlast hreached

/-- A span that is cut into consecutive parts, each run by its own executor from the label behind
the end of the part before, leaves what a single run of the span leaves: the same design and
invoker, the same result and the same transcript. -/
theorem partial_runs_compose (hmode : script.mode = .execute) (hdistinct : script.labels.Nodup)
    {range : StageRange} {executor : Executor}
    (hselect : Executor.select script range = .ok executor) {parts : List (Nat × Nat)}
    (hparts : Consecutive executor.start executor.stop parts) {invoker : ι}
    (hready : ReadyThroughout script backend (parts.map (.spanning script.labels)) design invoker) :
    let single := executor.run backend design invoker
    let pieces := runInTurn script backend (parts.map (.spanning script.labels)) design invoker
    pieces.design = single.design ∧ pieces.invoker = single.invoker ∧
      pieces.result = single.result ∧ pieces.transcript = single.executor.transcript := by
  intro single pieces
  obtain ⟨⟨start, stop⟩, hresolve, rfl⟩ := Executor.select_eq_ok_iff.mp hselect
  obtain ⟨-, hlast⟩ := StageRange.bounds_of_resolve hresolve
  have hstart : backend.checkReady design = .ok () := by
    cases hparts with
    | last horder => exact hready.1
    | cut horder hrest => exact hready.1
  -- The single run and the runs in turn agree with one and the same pass.
  have hsingle : single.toPass.Agrees
      (Executor.runStages backend (script.between start stop) design invoker) :=
    Executor.run_agrees rfl hmode hstart invoker
  have hpieces := run_in_turn_agrees hmode hdistinct hparts hlast hready
  refine ⟨hpieces.design.trans hsingle.design.symm, hpieces.invoker.trans hsingle.invoker.symm, ?_,
    hpieces.transcript.trans hsingle.transcript.symm⟩
  rw [← single.result_to_pass, Pass.result, Pass.result, hpieces.problem, hsingle.problem]

/-- Three parts of which the middle one has no invocations, with a failure in the last. -/
theorem partial_runs_compose_with_failure :
    let script : Script :=
      ⟨.execute,
        [⟨"prepare", [⟨"proc", .always⟩, ⟨"flatten", .always⟩]⟩, ⟨"coarse", []⟩,
          ⟨"check", [⟨"stat", .always⟩, ⟨"check", .always⟩]⟩]⟩
    let executor : Executor := { script := script, start := 0, stop := 2 }
    let parts := [(0, 0), (1, 1), (2, 2)]
    let single := executor.run Recorder.backend { loaded := true } { failAt := some 4 }
    let pieces := runInTurn script Recorder.backend (parts.map (.spanning script.labels))
      { loaded := true } { failAt := some 4 }
    Consecutive executor.start executor.stop parts ∧ single.executor.state = .aborted ∧
      pieces.design = single.design ∧ pieces.invoker = single.invoker ∧
      pieces.result = single.result ∧ pieces.transcript = single.executor.transcript := by
  intro script executor parts single pieces
  have hparts : Consecutive executor.start executor.stop parts :=
    .cut (by decide) (.cut (by decide) (.last (by decide)))
  have hready : ReadyThroughout script Recorder.backend (parts.map (.spanning script.labels))
      { loaded := true } { failAt := some 4 } :=
    ⟨rfl, fun _ => ⟨rfl, fun _ => ⟨rfl, fun _ => trivial⟩⟩⟩
  have hselect : Executor.select script .everything = .ok executor := rfl
  exact ⟨hparts, rfl, partial_runs_compose rfl (by decide) hselect hparts hready⟩

end StagedSynthesis
