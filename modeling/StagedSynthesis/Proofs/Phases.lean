import StagedSynthesis.Proofs.Explanation
import StagedSynthesis.Proofs.PartialRuns

/-!
# The phases of a synthesis call

A synthesis call looks at the family, then at the range, then at the mode, then at whether the
design is ready, and only then hands anything to its back end. `Decided` spells this order out:
one case for every way in which a call can end, each with the conditions of all earlier phases.
`synthesis_phases` says that a call ends exactly as decided, however many faults there are at once,
and that a call that is refused before the last phase has touched nothing.
-/

namespace StagedSynthesis

variable {δ ι : Type}

/-! ## Families -/

/-- A name is unknown exactly if no family has it. -/
theorem Family.of_name_eq_none_iff {name : String} :
    ofName? name = none ↔ ∀ family : Family, family.name ≠ name := by
  simp only [ofName?, List.find?_eq_none, decide_eq_true_eq]
  exact ⟨fun h family => h family family.mem_all, fun h family _ => h family⟩

/-- Options with a known family can be resolved. -/
theorem Options.FamilyKnown.resolve {options : Options} (h : options.FamilyKnown) :
    ∃ configuration, Configuration.resolve options = .ok configuration := by
  obtain ⟨family, hfamily⟩ := target_family_of_known h
  refine ⟨options.configure family, ?_⟩
  rw [Configuration.resolve, hfamily]
  rfl

/-- A configuration has the mode that the options ask for. -/
theorem Configuration.mode_of_resolve {options : Options} {configuration : Configuration}
    (h : resolve options = .ok configuration) :
    configuration.mode = if options.explain then .explain else .execute := by
  unfold resolve at h
  cases hfamily : options.targetFamily with
  | error problem => rw [hfamily] at h; cases h
  | ok family => rw [hfamily] at h; cases h; rfl

/-- Options that name no family are rejected, and the problem tells the name. -/
theorem Configuration.resolve_of_unknown {options : Options} {name : String}
    (hname : options.family = some name) (hunknown : ∀ family : Family, family.name ≠ name) :
    resolve options = .error (.unknownFamily name) := by
  simp only [resolve, Options.targetFamily, hname, Family.of_name_eq_none_iff.mpr hunknown]
  rfl

/-! ## Ranges -/

namespace StageRange

/-- The problem for which a range of stages with some labels is refused. The last label is looked
at only if the first is found, and the order only if both are. -/
inductive Refused (labels : List String) (range : StageRange) : Problem → Prop
  | unknownFirst {first : String} (hfirst : range.first = some first) (hunknown : first ∉ labels) :
      Refused labels range (.unknownStage first)
  | unknownLast {last : String} (hfirst : ∀ first ∈ range.first, first ∈ labels)
      (hlast : range.last = some last) (hunknown : last ∉ labels) :
      Refused labels range (.unknownStage last)
  | inverted {first last : String} (hfirst : range.first = some first)
      (hlast : range.last = some last) (hknown : first ∈ labels ∧ last ∈ labels)
      (horder : labels.idxOf last < labels.idxOf first) :
      Refused labels range (.invertedRange first last)

/-- A label stands, among some others, neither before the first nor behind the last label of a
range. -/
def Covers (labels : List String) (range : StageRange) (label : String) : Prop :=
  (∀ first ∈ range.first, labels.idxOf first ≤ labels.idxOf label) ∧
    ∀ last ∈ range.last, labels.idxOf label ≤ labels.idxOf last

instance (labels : List String) (range : StageRange) : DecidablePred (range.Covers labels) :=
  fun _ => inferInstanceAs (Decidable (_ ∧ _))

/-- The stages of a script that a range covers. -/
def stagesOf (range : StageRange) (script : Script) : List Stage :=
  script.stages.filter fun stage => range.Covers script.labels stage.label

section

variable {range : StageRange} {labels : List String}

/-- A range starts at the position of its first label, or at the front without one. -/
theorem start_in_of_known (h : ∀ first ∈ range.first, first ∈ labels) :
    range.startIn labels = .ok (range.first.elim 0 labels.idxOf) := by
  unfold startIn
  cases hfirst : range.first with
  | none => rfl
  | some first => exact position_of_mem (h first hfirst)

/-- A range stops at the position of its last label, or at the end without one. -/
theorem stop_in_of_known (h : ∀ last ∈ range.last, last ∈ labels) :
    range.stopIn labels = .ok (range.last.elim (labels.length - 1) labels.idxOf) := by
  unfold stopIn
  cases hlast : range.last with
  | none => rfl
  | some last => exact position_of_mem (h last hlast)

/-- A refused range does not resolve. -/
theorem Refused.resolve_eq {problem : Problem} (h : range.Refused labels problem) :
    range.resolve labels = .error problem := by
  rw [resolve_eq_bind]
  cases h with
  | unknownFirst hfirst hunknown =>
      simp only [startIn, hfirst, position_of_not_mem hunknown]
      rfl
  | unknownLast hfirst hlast hunknown =>
      simp only [start_in_of_known hfirst, stopIn, hlast, position_of_not_mem hunknown]
      rfl
  | @inverted first last hfirst hlast hknown horder =>
      -- The labels that the problem tells are read back from the positions.
      have hlabel : ∀ label ∈ labels, labels[labels.idxOf label]?.getD "" = label := by
        intro label hlabel
        have hindex := List.idxOf_lt_length_of_mem hlabel
        rw [List.getElem?_eq_getElem hindex, List.getElem_idxOf hindex]
        rfl
      simp only [startIn, stopIn, hfirst, hlast, position_of_mem hknown.1, position_of_mem hknown.2,
        Except.bind, if_pos horder, hlabel first hknown.1, hlabel last hknown.2]

/-- A range that is refused is a problem of the configuration. -/
theorem Refused.kind_eq {problem : Problem} (h : range.Refused labels problem) :
    problem.kind = .configuration := by
  cases h <;> rfl

/-- A range resolves or is refused. -/
theorem resolves_or_refused (range : StageRange) (labels : List String) :
    (∃ span, range.resolve labels = .ok span) ∨ ∃ problem, range.Refused labels problem := by
  by_cases hfirst : ∀ first ∈ range.first, first ∈ labels
  case neg =>
    simp only [Classical.not_forall] at hfirst
    obtain ⟨first, hfirst, hunknown⟩ := hfirst
    exact .inr ⟨_, .unknownFirst hfirst hunknown⟩
  by_cases hlast : ∀ last ∈ range.last, last ∈ labels
  case neg =>
    simp only [Classical.not_forall] at hlast
    obtain ⟨last, hlast, hunknown⟩ := hlast
    exact .inr ⟨_, .unknownLast hfirst hlast hunknown⟩
  by_cases horder :
      range.first.elim 0 labels.idxOf ≤ range.last.elim (labels.length - 1) labels.idxOf
  · exact .inl ⟨_, resolve_eq_ok_iff.mpr ⟨start_in_of_known hfirst, stop_in_of_known hlast, horder⟩⟩
  -- An open end never stands on the wrong side of the other.
  rcases range with ⟨_ | first, _ | last⟩
  · exact absurd (Nat.zero_le _) horder
  · exact absurd (Nat.zero_le _) horder
  · have hindex := List.idxOf_lt_length_of_mem (hfirst first rfl)
    exact absurd (Nat.le_sub_one_of_lt hindex) horder
  · exact .inr ⟨_, .inverted rfl rfl ⟨hfirst first rfl, hlast last rfl⟩ (Nat.lt_of_not_le horder)⟩

/-- A range that resolves covers the labels between the two positions. -/
theorem covers_iff_of_resolve {start stop : Nat} (h : range.resolve labels = .ok (start, stop))
    {label : String} (hlabel : label ∈ labels) :
    range.Covers labels label ↔ start ≤ labels.idxOf label ∧ labels.idxOf label ≤ stop := by
  obtain ⟨hstart, hstop, -⟩ := resolve_eq_ok_iff.mp h
  have hindex := List.idxOf_lt_length_of_mem hlabel
  refine and_congr ?_ ?_
  · cases hfirst : range.first with
    | none =>
        rw [startIn, hfirst] at hstart
        cases hstart
        simp
    | some first =>
        rw [startIn, hfirst] at hstart
        obtain ⟨-, rfl⟩ := position_eq_ok_iff.mp hstart
        simp
  · cases hlast : range.last with
    | none =>
        rw [stopIn, hlast] at hstop
        cases hstop
        exact iff_of_true (by simp) (Nat.le_sub_one_of_lt hindex)
    | some last =>
        rw [stopIn, hlast] at hstop
        obtain ⟨-, rfl⟩ := position_eq_ok_iff.mp hstop
        simp

end

/-- A part of a list is what a test keeps that only the positions of the part pass. -/
theorem filter_eq_drop_take {α : Type} {items : List α} {test : α → Bool} {start stop : Nat}
    (horder : start ≤ stop)
    (htest : ∀ index (hindex : index < items.length),
      test items[index] ↔ start ≤ index ∧ index ≤ stop) :
    items.filter test = (items.take (stop + 1)).drop start := by
  have hfront : (items.take start).filter test = [] := by
    rw [List.filter_eq_nil_iff]
    intro item hitem
    obtain ⟨index, hindex, rfl⟩ := List.mem_take_iff_getElem.mp hitem
    rw [htest]
    omega
  have hback : (items.drop (stop + 1)).filter test = [] := by
    rw [List.filter_eq_nil_iff]
    intro item hitem
    obtain ⟨index, hindex, rfl⟩ := List.mem_drop_iff_getElem.mp hitem
    rw [htest]
    omega
  have hmiddle : ((items.take (stop + 1)).drop start).filter test =
      (items.take (stop + 1)).drop start := by
    rw [List.filter_eq_self]
    intro item hitem
    obtain ⟨index, hindex, rfl⟩ := List.mem_drop_iff_getElem.mp hitem
    rw [List.length_take] at hindex
    rw [List.getElem_take, htest]
    omega
  have htake : (items.take (stop + 1)).take start = items.take start := by
    rw [List.take_take, Nat.min_eq_left (by omega)]
  calc items.filter test
    _ = (items.take (stop + 1) ++ items.drop (stop + 1)).filter test := by
        rw [List.take_append_drop]
    _ = (items.take (stop + 1)).filter test := by
        rw [List.filter_append, hback, List.append_nil]
    _ = (items.take start ++ (items.take (stop + 1)).drop start).filter test := by
        rw [← htake, List.take_append_drop]
    _ = (items.take (stop + 1)).drop start := by
        rw [List.filter_append, hfront, hmiddle, List.nil_append]

/-- The stages between the positions of a range are those that it covers. -/
theorem between_of_resolve {range : StageRange} {script : Script}
    (hdistinct : script.labels.Nodup) {start stop : Nat}
    (h : range.resolve script.labels = .ok (start, stop)) :
    script.between start stop = range.stagesOf script := by
  symm
  refine filter_eq_drop_take (bounds_of_resolve h).1 fun index hindex => ?_
  have hlength : index < script.labels.length := by
    rw [Script.labels, List.length_map]
    exact hindex
  have hlabel : script.stages[index].label = script.labels[index] :=
    (List.getElem_map _).symm
  rw [decide_eq_true_iff, hlabel, covers_iff_of_resolve h (List.getElem_mem hlength),
    hdistinct.idxOf_getElem index hlength]

end StageRange

/-! ## Executors -/

namespace Executor

/-- Selecting finds the positions to which the range resolves. -/
theorem span_select (script : Script) (range : StageRange) :
    (select script range).map (fun found => (found.start, found.stop)) =
      range.resolve script.labels := by
  unfold select
  cases range.resolve script.labels <;> rfl

variable {executor : Executor} {backend : Backend δ ι} {design : δ}

/-- A fresh executor refuses a design that is not ready and touches nothing. -/
theorem run_of_not_ready (hstate : executor.state = .pending)
    (hmode : executor.script.mode = .execute) {reason : String}
    (hready : backend.checkReady design = .error reason) (invoker : ι) :
    executor.run backend design invoker =
      { executor := { executor with state := .aborted }
        design := design
        invoker := invoker
        result := .error (.precondition reason)
        events := [executor.startEvent] } := by
  simp only [run, begin?, hstate, if_true, hmode, hready]
  rfl

/-- An explaining script hands nothing over. -/
theorem hands_over_nothing_of_explain (hstate : executor.state = .pending)
    (hmode : executor.script.mode = .explain) (invoker : ι) :
    executor.HandsOver backend design invoker [] := by
  refine ⟨?_, ?_⟩
  · rw [calls, run_of_explain _ hstate hmode]
  · rw [run_of_explain _ hstate hmode]
    rfl

/-- Nothing is handed over to a back end that is not ready. -/
theorem hands_over_nothing_of_not_ready (hstate : executor.state = .pending)
    (hmode : executor.script.mode = .execute) {reason : String}
    (hready : backend.checkReady design = .error reason) (invoker : ι) :
    executor.HandsOver backend design invoker [] := by
  have hlogged : backend.logged.checkReady design = .error reason := hready
  refine ⟨?_, ?_⟩
  · rw [calls, run_of_not_ready hstate hmode hlogged]
  · rw [run_of_not_ready hstate hmode hready]
    rfl

end Executor

/-! ## The decision -/

section

variable (options : Options) (range : StageRange) (backend : Backend δ ι) (design : δ) (invoker : ι)

/-- How a synthesis call is decided, and the invocations that it hands over until then. Each case
carries that the phases before it were passed. -/
inductive Decided : Except Problem Unit → List Invocation → Prop
  | unknownFamily {name : String} (hname : options.family = some name)
      (hunknown : ∀ family : Family, family.name ≠ name) :
      Decided (.error (.unknownFamily name)) []
  | refusedRange {problem : Problem} (hfamily : options.FamilyKnown)
      (hrefused : range.Refused Flow.stageLabels problem) :
      Decided (.error problem) []
  | explained (hfamily : options.FamilyKnown)
      (hrange : ∀ problem, ¬ range.Refused Flow.stageLabels problem)
      (hmode : options.explain = true) :
      Decided (.ok ()) []
  | notReady {reason : String} (hfamily : options.FamilyKnown)
      (hrange : ∀ problem, ¬ range.Refused Flow.stageLabels problem)
      (hmode : options.explain = false) (hready : backend.checkReady design = .error reason) :
      Decided (.error (.precondition reason)) []
  | failed {configuration : Configuration} {cause : String}
      (hconfiguration : Configuration.resolve options = .ok configuration)
      (hrange : ∀ problem, ¬ range.Refused Flow.stageLabels problem)
      (hmode : options.explain = false) (hready : backend.checkReady design = .ok ())
      (position : Position (range.stagesOf (Script.build configuration)))
      (hfails : backend.FailsAt position design invoker cause) :
      Decided (.error (.operationFailed position.stage.label position.invocation.command cause))
        (invocationsOf (position.earlier ++ [position.step]))
  | completed {configuration : Configuration}
      (hconfiguration : Configuration.resolve options = .ok configuration)
      (hrange : ∀ problem, ¬ range.Refused Flow.stageLabels problem)
      (hmode : options.explain = false) (hready : backend.checkReady design = .ok ())
      (haccepts : backend.Accepts
        (invocationsOf (stepsOf (range.stagesOf (Script.build configuration)))) design invoker) :
      Decided (.ok ()) (invocationsOf (stepsOf (range.stagesOf (Script.build configuration))))

/-- Every call is decided. -/
theorem exists_decided :
    ∃ outcome calls, Decided options range backend design invoker outcome calls := by
  by_cases hfamily : options.FamilyKnown
  case neg =>
    simp only [Options.FamilyKnown, Classical.not_forall, not_exists] at hfamily
    obtain ⟨name, hname, hunknown⟩ := hfamily
    exact ⟨_, _, .unknownFamily hname hunknown⟩
  by_cases hrange : ∀ problem, ¬ range.Refused Flow.stageLabels problem
  case neg =>
    simp only [Classical.not_forall, Classical.not_not] at hrange
    obtain ⟨problem, hrefused⟩ := hrange
    exact ⟨_, _, .refusedRange hfamily hrefused⟩
  cases hmode : options.explain with
  | true => exact ⟨_, _, .explained hfamily hrange hmode⟩
  | false =>
      cases hready : backend.checkReady design with
      | error reason => exact ⟨_, _, .notReady hfamily hrange hmode hready⟩
      | ok =>
          obtain ⟨configuration, hresolve⟩ := hfamily.resolve
          rcases backend.accepts_or_fails_at (range.stagesOf (Script.build configuration)) design
            invoker with haccepts | ⟨position, cause, hfails⟩
          · exact ⟨_, _, .completed hresolve hrange hmode hready haccepts⟩
          · exact ⟨_, _, .failed hresolve hrange hmode hready position hfails⟩

/-- A synthesis call comes to an outcome after it has handed over some invocations, and these
account for the design and the invoker that it leaves behind. -/
structure Ends (outcome : Except Problem Unit) (calls : List Invocation) : Prop where
  result : (synthesize options range backend design invoker).result.map (fun _ => ()) = outcome
  left : ((synthesize options range backend design invoker).design,
      (synthesize options range backend design invoker).invoker) =
    backend.after calls design invoker
  calls : synthesisCalls options range backend design invoker = calls

end

section

variable {options : Options} {range : StageRange} {backend : Backend δ ι} {design : δ} {invoker : ι}
  {configuration : Configuration} {executor : Executor}

/-- A range that is accepted selects a fresh executor for the stages that it covers. -/
theorem exists_selected (configuration : Configuration)
    (hrange : ∀ problem, ¬ range.Refused Flow.stageLabels problem) :
    ∃ executor, Executor.select (Script.build configuration) range = .ok executor ∧
      executor.state = .pending ∧ executor.script.mode = configuration.mode ∧
      executor.selectedStages = range.stagesOf (Script.build configuration) := by
  have hlabels := Script.labels_build configuration
  rcases range.resolves_or_refused Flow.stageLabels with ⟨span, hspan⟩ | ⟨problem, hrefused⟩
  · have hdistinct : (Script.build configuration).labels.Nodup := by
      rw [hlabels]
      decide
    rw [← hlabels] at hspan
    exact ⟨_, Executor.select_eq_ok_iff.mpr ⟨span, hspan, rfl⟩, rfl, rfl,
      StageRange.between_of_resolve hdistinct hspan⟩
  · exact absurd hrefused (hrange problem)

/-- A call that selects an executor ends as the run of it does. -/
theorem ends_of_run (hresolve : Configuration.resolve options = .ok configuration)
    (hselect : Executor.select (Script.build configuration) range = .ok executor)
    {outcome : Except Problem Unit} {calls : List Invocation}
    (hresult : (executor.run backend design invoker).result = outcome)
    (hhands : executor.HandsOver backend design invoker calls) :
    Ends options range backend design invoker outcome calls := by
  refine ⟨?_, ?_, ?_⟩
  · simp only [synthesize_of_select hresolve hselect, hresult]
    cases outcome <;> rfl
  · rw [synthesize_of_select hresolve hselect]
    exact hhands.left
  · rw [synthesis_calls_of_select hresolve hselect, hhands.calls]

/-- A call ends as it is decided. -/
theorem Decided.ends {outcome : Except Problem Unit} {calls : List Invocation}
    (h : Decided options range backend design invoker outcome calls) :
    Ends options range backend design invoker outcome calls := by
  cases h with
  | unknownFamily hname hunknown =>
      have hresolve := Configuration.resolve_of_unknown hname hunknown
      refine ⟨?_, ?_, ?_⟩ <;> simp only [synthesisCalls, synthesize, hresolve] <;> rfl
  | @refusedRange problem hfamily hrefused =>
      obtain ⟨configuration, hresolve⟩ := hfamily.resolve
      have hselect : Executor.select (Script.build configuration) range = .error problem := by
        rw [Executor.select, Script.labels_build, hrefused.resolve_eq]
        rfl
      refine ⟨?_, ?_, ?_⟩ <;> simp only [synthesisCalls, synthesize, hresolve, hselect] <;> rfl
  | explained hfamily hrange hmode =>
      obtain ⟨configuration, hresolve⟩ := hfamily.resolve
      obtain ⟨executor, hselect, hstate, hscript, -⟩ := exists_selected configuration hrange
      rw [Configuration.mode_of_resolve hresolve, if_pos hmode] at hscript
      refine ends_of_run hresolve hselect ?_
        (Executor.hands_over_nothing_of_explain hstate hscript invoker)
      rw [Executor.run_of_explain backend hstate hscript]
  | notReady hfamily hrange hmode hready =>
      obtain ⟨configuration, hresolve⟩ := hfamily.resolve
      obtain ⟨executor, hselect, hstate, hscript, -⟩ := exists_selected configuration hrange
      rw [Configuration.mode_of_resolve hresolve, hmode] at hscript
      refine ends_of_run hresolve hselect ?_
        (Executor.hands_over_nothing_of_not_ready hstate hscript hready invoker)
      rw [Executor.run_of_not_ready hstate hscript hready]
  | @failed configuration cause hresolve hrange hmode hready position hfails =>
      obtain ⟨executor, hselect, hstate, hscript, hstages⟩ := exists_selected configuration hrange
      rw [Configuration.mode_of_resolve hresolve, hmode] at hscript
      -- The position is one in the stages that the executor selects.
      generalize range.stagesOf (Script.build configuration) = stages at position hstages
      subst hstages
      obtain ⟨haborted, hhands⟩ := Executor.run_of_fails_at hstate hscript hready hfails
      exact ends_of_run hresolve hselect haborted.result hhands
  | completed hresolve hrange hmode hready haccepts =>
      obtain ⟨executor, hselect, hstate, hscript, hstages⟩ := exists_selected _ hrange
      rw [Configuration.mode_of_resolve hresolve, hmode] at hscript
      rw [← hstages] at haccepts ⊢
      obtain ⟨hcompleted, hhands⟩ := Executor.run_of_accepts hstate hscript hready haccepts
      exact ends_of_run hresolve hselect hcompleted.result hhands

/-- Only the operations are met with invocations handed over. -/
theorem Decided.kind_eq_operation_iff {problem : Problem} {calls : List Invocation}
    (h : Decided options range backend design invoker (.error problem) calls) :
    problem.kind = .operation ↔ calls ≠ [] := by
  cases h with
  | unknownFamily => simp [Problem.kind]
  | refusedRange hfamily hrefused => simp [hrefused.kind_eq]
  | notReady => simp [Problem.kind]
  | failed => simp [Problem.kind, invocationsOf]

end

/-- A synthesis call ends exactly as its phases decide. A call that reports a problem of an earlier
phase than the operations leaves the design and the invoker alone and hands over nothing; one that
reports a failed operation has handed over at least that one. Where a range starts and ends, or why
it is refused, does not depend on the configuration. -/
theorem synthesis_phases (options : Options) (range : StageRange) (backend : Backend δ ι)
    (design : δ) (invoker : ι) :
    let synthesis := synthesize options range backend design invoker
    let calls := synthesisCalls options range backend design invoker
    (∀ outcome, synthesis.result.map (fun _ => ()) = outcome ↔
      Decided options range backend design invoker outcome calls) ∧
    (∀ problem, synthesis.result = .error problem →
      (problem.kind ≠ .operation →
        synthesis.design = design ∧ synthesis.invoker = invoker ∧ calls = []) ∧
      (problem.kind = .operation → calls ≠ [])) ∧
    ∀ first second : Configuration,
      (Executor.select (Script.build first) range).map (fun found => (found.start, found.stop)) =
        (Executor.select (Script.build second) range).map
          (fun found => (found.start, found.stop)) := by
  intro synthesis calls
  obtain ⟨outcome, handed, hdecided⟩ := exists_decided options range backend design invoker
  obtain ⟨hresult, hleft, rfl⟩ := hdecided.ends
  refine ⟨?_, ?_, ?_⟩
  · intro other
    constructor
    · intro hother
      exact hother ▸ hresult ▸ hdecided
    · intro hother
      exact hother.ends.result
  · intro problem hproblem
    have houtcome : outcome = .error problem := by
      rw [← hresult, show synthesis.result = .error problem from hproblem]
      rfl
    have hkind := (houtcome ▸ hdecided).kind_eq_operation_iff
    refine ⟨?_, hkind.mp⟩
    intro hearlier
    have hcalls : calls = [] := Classical.not_not.mp (mt hkind.mpr hearlier)
    obtain ⟨hdesign, hinvoker⟩ :=
      Prod.ext_iff.mp (hleft.trans (congrArg (backend.after · design invoker) hcalls))
    exact ⟨hdesign, hinvoker, hcalls⟩
  · intro first second
    rw [Executor.span_select, Executor.span_select, Script.labels_build, Script.labels_build]

/-- Three faults at once are answered with the first of them, and a failure at the third call
comes after everything else has been found in order. -/
theorem synthesis_phases_of_faults :
    let recorder : Recorder := { failAt := some 3 }
    let refused := synthesize { family := some "ice40" } ⟨some "check", some "coarse"⟩
      Recorder.backend {} recorder
    let failed := synthesize { family := some "pp3" } ⟨some "check", some "iomap"⟩
      Recorder.backend { loaded := true } recorder
    (refused.result = .error (.unknownFamily "ice40") ∧
      refused.design = {} ∧ refused.invoker = recorder) ∧
    failed.result = .error (.operationFailed "check" "stat" "injected failure in `stat`") ∧
    synthesisCalls { family := some "pp3" } ⟨some "check", some "iomap"⟩ Recorder.backend
      { loaded := true } recorder ≠ [] := by
  intro recorder refused failed
  have hrefused : refused.result = .error (.unknownFamily "ice40") := rfl
  have hfailed : failed.result =
      .error (.operationFailed "check" "stat" "injected failure in `stat`") := rfl
  obtain ⟨-, hearly, -⟩ := synthesis_phases { family := some "ice40" }
    ⟨some "check", some "coarse"⟩ Recorder.backend {} recorder
  obtain ⟨huntouched, -⟩ := hearly _ hrefused
  obtain ⟨hdesign, hinvoker, -⟩ := huntouched (by decide)
  obtain ⟨-, hlate, -⟩ := synthesis_phases { family := some "pp3" }
    ⟨some "check", some "iomap"⟩ Recorder.backend { loaded := true } recorder
  exact ⟨⟨hrefused, hdesign, hinvoker⟩, hfailed, (hlate _ hfailed).2 rfl⟩

end StagedSynthesis
