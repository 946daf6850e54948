import StagedSynthesis.Proofs.SingleUse

/-!
# The text of a transcript

A transcript keeps the labels of the reached stages and the entries of all of them in two lists, and
its text looks the entries of every label up anew. This shows each entry once, and in order, only if
the labels are distinct and the entries stand in groups that follow the labels: the transcript then
divides into chapters (`Transcript.DividesInto`), and its text is one pass over them (`text_eq`).
Every ending of an executor leaves such a transcript (`reports_after_calls`). The main theorem is
`text_shows_each_entry_once`.
-/

namespace StagedSynthesis

/-! ## Chapters -/

namespace Entry

/-- What the line of an entry shows: its command, its condition in parentheses, and a mark if it
failed. -/
def parts (entry : Entry) : List String :=
  [entry.command] ++ entry.annotation.toList.map (fun condition => "(" ++ condition ++ ")") ++
    if entry.outcome = .failed then ["[FAILED]"] else []

/-- The line of an entry. Each of its parts stands behind four spaces. -/
def shown (entry : Entry) : String :=
  String.join (entry.parts.map ("    " ++ ·))

/-- The line of an entry is what it shows, with a line break. -/
theorem line_eq (entry : Entry) : entry.line = entry.shown ++ "\n" := by
  unfold line shown parts
  cases hannotation : entry.annotation with
  | none => by_cases hfailed : entry.outcome = .failed <;> simp [hfailed, String.append_assoc]
  | some condition =>
      by_cases hfailed : entry.outcome = .failed <;>
        simp [hfailed, ← String.append_assoc]

/-- The entry that a listing has for the same invocation. -/
def relisted (entry : Entry) : Entry :=
  { entry with outcome := .listed }

end Entry

/-- The part of a transcript about one reached stage. -/
structure Chapter where
  label : String
  entries : List Entry

/-- The lines of a chapter: its label, one line for each entry, and an empty line. -/
def Chapter.text (chapter : Chapter) : String :=
  chapter.label ++ ":\n" ++
    String.join (chapter.entries.map fun entry => entry.shown ++ "\n") ++ "\n"

/-- A text to which the texts of some items are appended in turn. -/
theorem foldl_append_eq_join {α : Type} (text : α → String) (items : List α) (front : String) :
    items.foldl (fun front item => front ++ text item) front =
      front ++ String.join (items.map text) := by
  induction items generalizing front with
  | nil => simp
  | cons item rest ih =>
      rw [List.foldl_cons, ih, List.map_cons, String.join_cons, String.append_assoc]

namespace Transcript

/-- A transcript consists of some chapters in a row. The entries of each belong to its stage. -/
structure DividesInto (transcript : Transcript) (chapters : List Chapter) : Prop where
  labels : transcript.labels = chapters.map Chapter.label
  entries : transcript.entries = chapters.flatMap Chapter.entries
  stages : ∀ chapter ∈ chapters, ∀ entry ∈ chapter.entries, entry.stage = chapter.label

namespace DividesInto

variable {transcript : Transcript} {chapters : List Chapter}

/-- Transcripts one after the other divide into their chapters one after the other. -/
theorem append {other : Transcript} {others : List Chapter} (h : transcript.DividesInto chapters)
    (hother : other.DividesInto others) :
    (transcript ++ other).DividesInto (chapters ++ others) where
  labels := by
    show transcript.labels ++ other.labels = _
    rw [h.labels, hother.labels, List.map_append]
  entries := by
    show transcript.entries ++ other.entries = _
    rw [h.entries, hother.entries, List.flatMap_append]
  stages := by
    intro chapter hchapter
    rcases List.mem_append.mp hchapter with hchapter | hchapter
    · exact h.stages chapter hchapter
    · exact hother.stages chapter hchapter

/-- Entries of one stage make up a single chapter. -/
theorem single {label : String} {entries : List Entry}
    (hstage : ∀ entry ∈ entries, entry.stage = label) :
    (Transcript.mk [label] entries).DividesInto [⟨label, entries⟩] where
  labels := rfl
  entries := (List.append_nil entries).symm
  stages := List.forall_mem_singleton.mpr hstage

/-- The stage of every entry is one of the labels. -/
theorem stage_mem (h : transcript.DividesInto chapters) {entry : Entry}
    (hentry : entry ∈ transcript.entries) : entry.stage ∈ transcript.labels := by
  rw [h.entries] at hentry
  obtain ⟨chapter, hchapter, hentry⟩ := List.mem_flatMap.mp hentry
  rw [h.labels, h.stages chapter hchapter entry hentry]
  exact List.mem_map_of_mem hchapter

/-- Looking up a label among the entries of chapters with other labels finds nothing. -/
theorem filter_eq_nil {label : String}
    (hstages : ∀ chapter ∈ chapters, ∀ entry ∈ chapter.entries, entry.stage = chapter.label)
    (hlabel : label ∉ chapters.map Chapter.label) :
    (chapters.flatMap Chapter.entries).filter (fun entry => entry.stage = label) = [] := by
  rw [List.filter_eq_nil_iff]
  intro entry hentry hsame
  obtain ⟨chapter, hchapter, hentry⟩ := List.mem_flatMap.mp hentry
  rw [hstages chapter hchapter entry hentry, decide_eq_true_eq] at hsame
  exact hlabel (hsame ▸ List.mem_map_of_mem hchapter)

/-- Looking up the label of a chapter among all entries finds the entries of that chapter. -/
theorem filter_eq_entries
    (hstages : ∀ chapter ∈ chapters, ∀ entry ∈ chapter.entries, entry.stage = chapter.label)
    (hlabels : (chapters.map Chapter.label).Nodup) {chapter : Chapter}
    (hchapter : chapter ∈ chapters) :
    (chapters.flatMap Chapter.entries).filter (fun entry => entry.stage = chapter.label) =
      chapter.entries := by
  induction chapters with
  | nil => simp at hchapter
  | cons first rest ih =>
      obtain ⟨hfirst, hrest⟩ := List.forall_mem_cons.mp hstages
      obtain ⟨hfresh, hlabels⟩ := List.nodup_cons.mp hlabels
      rw [List.flatMap_cons, List.filter_append]
      rcases List.mem_cons.mp hchapter with rfl | hchapter
      · have hown : chapter.entries.filter (fun entry => entry.stage = chapter.label) =
            chapter.entries := List.filter_eq_self.mpr (by simpa using hfirst)
        rw [hown, filter_eq_nil hrest hfresh, List.append_nil]
      · -- The chapter stands behind the first one, so the first has another label.
        have hother : first.label ≠ chapter.label :=
          fun hsame => hfresh (hsame ▸ List.mem_map_of_mem hchapter)
        have hnone : first.entries.filter (fun entry => entry.stage = chapter.label) = [] := by
          rw [List.filter_eq_nil_iff]
          intro entry hentry
          simpa [hfirst entry hentry] using hother
        rw [hnone, List.nil_append, ih hrest hlabels hchapter]

/-- The text of a transcript with distinct labels is that of its chapters, one after the other. -/
theorem text_eq (h : transcript.DividesInto chapters) (hlabels : transcript.labels.Nodup) :
    transcript.text = String.join (chapters.map Chapter.text) := by
  have hstage : ∀ chapter ∈ chapters, transcript.stageText chapter.label = chapter.text := by
    intro chapter hchapter
    rw [h.labels] at hlabels
    rw [stageText, h.entries, filter_eq_entries h.stages hlabels hchapter, foldl_append_eq_join,
      Chapter.text, List.map_congr_left fun entry _ => entry.line_eq]
  calc transcript.text
    _ = String.join (transcript.labels.map transcript.stageText) := by
        rw [text, foldl_append_eq_join, String.empty_append]
    _ = String.join (chapters.map Chapter.text) := by
        rw [h.labels, List.map_map]
        exact congrArg String.join (List.map_congr_left hstage)

end DividesInto

/-! ## What a transcript reports of some stages -/

/-- A transcript reports a front part of some stages: it names them in order, and up to what became
of them its entries are those of a listing. -/
structure Reports (transcript : Transcript) (stages : List Stage) : Prop where
  labels : transcript.labels <+: stages.map Stage.label
  entries : transcript.entries.map Entry.relisted <+: (Executor.listing stages).entries
  divided : ∃ chapters, transcript.DividesInto chapters

end Transcript

/-- The chapter of a stage all of whose invocations came to one outcome. -/
def Stage.chapter (outcome : Outcome) (stage : Stage) : Chapter :=
  ⟨stage.label, stage.steps.map (Step.entry outcome)⟩

/-- What is reported of whole stages divides into a chapter for each. -/
theorem Stage.divides_into_chapters (outcome : Outcome) (stages : List Stage) :
    (Transcript.mk (stages.map Stage.label) ((stepsOf stages).map (Step.entry outcome))).DividesInto
      (stages.map (Stage.chapter outcome)) where
  labels := by
    rw [List.map_map]
    rfl
  entries := by
    rw [stepsOf, List.map_flatMap, List.flatMap_map]
    rfl
  stages := by
    intro chapter hchapter entry hentry
    obtain ⟨stage, -, rfl⟩ := List.mem_map.mp hchapter
    obtain ⟨step, hstep, rfl⟩ := List.mem_map.mp hentry
    obtain ⟨invocation, -, rfl⟩ := List.mem_map.mp hstep
    rfl

/-- Steps that are listed again read the same, whatever came of them. -/
theorem relisted_entries (outcome : Outcome) (steps : List Step) :
    (steps.map (Step.entry outcome)).map Entry.relisted = steps.map (Step.entry .listed) := by
  rw [List.map_map]
  rfl

namespace Transcript

/-- A run that has reached no stage reports nothing. -/
theorem reports_nothing (stages : List Stage) : ({} : Transcript).Reports stages where
  labels := List.nil_prefix
  entries := List.nil_prefix
  divided := ⟨[], rfl, rfl, List.forall_mem_nil _⟩

/-- Entries for all steps of some stages report these stages. -/
theorem reports_all (outcome : Outcome) (stages : List Stage) :
    (Transcript.mk (stages.map Stage.label) ((stepsOf stages).map (Step.entry outcome))).Reports
      stages where
  labels := List.prefix_refl _
  entries := ⟨[], by rw [List.append_nil, relisted_entries, Executor.listing_eq]⟩
  divided := ⟨_, Stage.divides_into_chapters outcome stages⟩

/-- The invocations tried in the stage at a position make up the last chapter of a run that stops
there. -/
theorem divides_until {stages : List Stage} (position : Position stages) :
    ∃ chapters, (Transcript.mk position.labels
      (position.earlier.map (Step.entry .invoked) ++ [position.step.entry .failed])).DividesInto
      chapters := by
  let label := position.stage.label
  let tried := position.done.map (Entry.record label .invoked) ++
    [Entry.record label .failed position.invocation]
  have hstage : ∀ entry ∈ tried, entry.stage = label := by
    intro entry hentry
    rcases List.mem_append.mp hentry with hentry | hentry
    · obtain ⟨invocation, -, rfl⟩ := List.mem_map.mp hentry
      rfl
    · obtain rfl := List.mem_singleton.mp hentry
      rfl
  have hjoined : Transcript.mk position.labels
      (position.earlier.map (Step.entry .invoked) ++ [position.step.entry .failed]) =
      ⟨position.before.map Stage.label, (stepsOf position.before).map (Step.entry .invoked)⟩ ++
        ⟨[label], tried⟩ := by
    show _ = Transcript.mk (_ ++ _) (_ ++ _)
    simp [Position.labels, Position.earlier, Position.step, tried, label, Step.record_eq,
      Function.comp_def]
  rw [hjoined]
  exact ⟨_, (Stage.divides_into_chapters .invoked position.before).append (.single hstage)⟩

/-- Entries up to a failing step report the stages in which it stands. -/
theorem reports_until {stages : List Stage} (position : Position stages) :
    (Transcript.mk position.labels
      (position.earlier.map (Step.entry .invoked) ++ [position.step.entry .failed])).Reports
      stages where
  labels := by
    refine List.IsPrefix.map Stage.label ⟨position.later, ?_⟩
    rw [List.append_assoc]
    exact position.stages_eq.symm
  entries := by
    refine ⟨position.remaining.map (Step.entry .listed), ?_⟩
    rw [Executor.listing_eq, List.map_append, relisted_entries]
    show _ = (stepsOf stages).map (Step.entry .listed)
    rw [position.steps_eq, List.map_append, List.append_assoc]
    rfl
  divided := divides_until position

end Transcript

/-! ## What became of the invocations -/

variable {δ ι : Type}

namespace Backend

variable (backend : Backend δ ι)

/-- What becomes of invocations that a back end is handed in turn. -/
def outcomes : List Invocation → δ → ι → List Outcome
  | [], _, _ => []
  | invocation :: rest, design, invoker =>
      let reply := backend.invoke design invoker invocation
      (match reply.result with
        | .ok () => .invoked
        | .error _ => .failed) :: outcomes rest reply.design reply.invoker

/-- What comes of invocations one after the other is what comes of each, starting with what the
earlier ones leave. -/
theorem outcomes_append (first second : List Invocation) (design : δ) (invoker : ι) :
    backend.outcomes (first ++ second) design invoker =
      backend.outcomes first design invoker ++
        backend.outcomes second (backend.after first design invoker).1
          (backend.after first design invoker).2 := by
  induction first generalizing design invoker with
  | nil => rfl
  | cons invocation rest ih => exact congrArg (List.cons _) (ih _ _)

variable {backend}

/-- Invocations that are accepted are all invoked. -/
theorem Accepts.outcomes_eq {invocations : List Invocation} {design : δ} {invoker : ι}
    (h : backend.Accepts invocations design invoker) :
    backend.outcomes invocations design invoker = invocations.map fun _ => .invoked := by
  induction invocations generalizing design invoker with
  | nil => rfl
  | cons invocation rest ih =>
      obtain ⟨hresult, hrest⟩ := h
      simp only [outcomes, hresult, ih hrest, List.map_cons]

/-- Where a step fails, the earlier ones were invoked. -/
theorem FailsAt.outcomes_eq {stages : List Stage} {position : Position stages} {design : δ}
    {invoker : ι} {cause : String} (h : backend.FailsAt position design invoker cause) :
    backend.outcomes (invocationsOf (position.earlier ++ [position.step])) design invoker =
      (position.earlier.map fun _ => .invoked) ++ [.failed] := by
  have hlast : backend.outcomes [position.invocation]
      (backend.after (invocationsOf position.earlier) design invoker).1
      (backend.after (invocationsOf position.earlier) design invoker).2 = [.failed] := by
    have hrefused := h.refused
    rw [replyAfter] at hrefused
    simp only [outcomes, hrefused]
  have hearlier : (invocationsOf position.earlier).map (fun _ => Outcome.invoked) =
      position.earlier.map fun _ => .invoked := List.map_map
  rw [invocations_of_append, outcomes_append, h.accepts.outcomes_eq, hearlier]
  exact congrArg (_ ++ ·) hlast

end Backend

/-! ## Every ending -/

namespace Executor

variable {executor : Executor}

/-- However a run that executes its script ends, its transcript has an entry for every invocation
that was handed over, in that order and with what became of it. -/
theorem entries_of_run (hpending : executor.state = .pending) (hempty : executor.transcript = {})
    (hmode : executor.script.mode = .execute) (backend : Backend δ ι) (design : δ) (invoker : ι) :
    let transcript := (executor.run backend design invoker).executor.transcript
    let handed := executor.calls backend design invoker
    transcript.commands = handed.map Invocation.command ∧
      transcript.entries.map Entry.outcome = backend.outcomes handed design invoker := by
  intro transcript handed
  cases hready : backend.checkReady design with
  | error reason =>
      have hhanded : handed = [] :=
        (hands_over_nothing_of_not_ready hpending hmode hready invoker).calls
      have htranscript : transcript = {} := by
        simp only [transcript, run_of_not_ready hpending hmode hready, hempty]
      rw [hhanded, htranscript]
      exact ⟨rfl, rfl⟩
  | ok =>
      rcases backend.accepts_or_fails_at _ design invoker with haccepts | ⟨position, cause, hfails⟩
      · obtain ⟨hcompleted, hhands⟩ := run_of_accepts hpending hmode hready haccepts
        have hhanded : handed = invocationsOf (stepsOf executor.selectedStages) := hhands.calls
        have htranscript : transcript = _ := hcompleted.transcript
        rw [hhanded, htranscript, haccepts.outcomes_eq]
        simp [Transcript.commands, invocationsOf, Step.entry, Function.comp_def]
      · obtain ⟨haborted, hhands⟩ := run_of_fails_at hpending hmode hready hfails
        have hhanded : handed = invocationsOf (position.earlier ++ [position.step]) := hhands.calls
        have htranscript : transcript = _ := haborted.transcript
        rw [hhanded, htranscript, hfails.outcomes_eq]
        simp [Transcript.commands, invocationsOf, Step.entry, Function.comp_def]

/-- The transcript that a call leaves behind: nothing, the selected stages with one outcome, or
these stages up to a position. -/
theorem transcript_perform (hpending : executor.state = .pending)
    (hempty : executor.transcript = {}) (call : Call) :
    let used := (executor.perform call).1
    used.state = .aborted ∧ used.transcript = {} ∨
      (∃ outcome, used.transcript = ⟨executor.selectedStages.map Stage.label,
        (stepsOf executor.selectedStages).map (Step.entry outcome)⟩) ∨
      ∃ position : Position executor.selectedStages, used.state = .aborted ∧
        used.transcript = ⟨position.labels,
          position.earlier.map (Step.entry .invoked) ++ [position.step.entry .failed]⟩ := by
  cases call with
  | explain =>
      rw [perform, explain_of_pending hpending]
      exact .inr (.inl ⟨.listed, rfl⟩)
  | run backend design invoker =>
      rw [perform]
      cases hmode : executor.script.mode with
      | explain =>
          rw [run_of_explain backend hpending hmode, explain_of_pending hpending]
          exact .inr (.inl ⟨.listed, rfl⟩)
      | execute =>
          cases hready : backend.checkReady design with
          | error reason =>
              rw [run_of_not_ready hpending hmode hready]
              exact .inl ⟨rfl, hempty⟩
          | ok =>
              rcases backend.accepts_or_fails_at _ design invoker with
                haccepts | ⟨position, cause, hfails⟩
              · have hcompleted := (run_of_accepts hpending hmode hready haccepts).1
                exact .inr (.inl ⟨.invoked, hcompleted.transcript⟩)
              · have haborted := (run_of_fails_at hpending hmode hready hfails).1
                exact .inr (.inr ⟨position, haborted.state, haborted.transcript⟩)

/-- The labels of the selected stages stand in the script in the same order. -/
theorem selected_labels_sublist (executor : Executor) :
    (executor.selectedStages.map Stage.label).Sublist executor.script.labels :=
  ((List.drop_sublist _ _).trans (List.take_sublist _ _)).map Stage.label

/-- A new executor has an empty transcript. -/
theorem transcript_of_select {script : Script} {range : StageRange}
    (hselect : select script range = .ok executor) : executor.transcript = {} := by
  obtain ⟨span, -, rfl⟩ := select_eq_ok_iff.mp hselect
  rfl

/-- Calls in any number and order leave a transcript that reports the selected stages, all of them
if the executor completed. -/
theorem reports_after_calls {script : Script} {range : StageRange}
    (hselect : select script range = .ok executor) (calls : List Call) :
    let used := executor.afterCalls calls
    used.transcript.Reports executor.selectedStages ∧
      (used.state = .completed →
        used.transcript.labels = executor.selectedStages.map Stage.label ∧
          used.transcript.entries.map Entry.relisted =
            (listing executor.selectedStages).entries) := by
  have hpending := (fresh_of_select hselect).2
  have hempty := transcript_of_select hselect
  cases calls with
  | nil =>
      show executor.transcript.Reports _ ∧ (executor.state = .completed → _)
      rw [hempty, hpending]
      exact ⟨Transcript.reports_nothing _, nofun⟩
  | cons first later =>
      have hstays : executor.afterCalls (first :: later) = (executor.perform first).1 :=
        after_calls_of_used (settled_perform hpending first).used later
      simp only [hstays]
      rcases transcript_perform hpending hempty first with
        ⟨hstate, htranscript⟩ | ⟨outcome, htranscript⟩ | ⟨position, hstate, htranscript⟩
      · rw [hstate, htranscript]
        exact ⟨Transcript.reports_nothing _, nofun⟩
      · rw [htranscript]
        refine ⟨Transcript.reports_all outcome _, fun _ => ⟨rfl, ?_⟩⟩
        rw [relisted_entries, listing_eq]
      · rw [hstate, htranscript]
        exact ⟨Transcript.reports_until position, nofun⟩

/-- However often and in whichever way an executor of a synthesis script is called, the labels of
its transcript are distinct, every entry belongs to one of them, and the entries stand in chapters
that follow the labels; the text is that of the chapters, one after the other. The chapters cover a
front part of the selected stages, all of them if the executor completed, and a run that executes
its script has one entry for each invocation it handed over, in that order and marked as failed
exactly if the back end refused it. -/
theorem text_shows_each_entry_once {configuration : Configuration} {range : StageRange}
    (hselect : select (Script.build configuration) range = .ok executor) (calls : List Call) :
    let used := executor.afterCalls calls
    let transcript := used.transcript
    transcript.labels.Nodup ∧
      (∀ entry ∈ transcript.entries, entry.stage ∈ transcript.labels) ∧
      (∃ chapters, transcript.DividesInto chapters ∧
        transcript.text = String.join (chapters.map Chapter.text)) ∧
      (transcript.labels <+: executor.selectedStages.map Stage.label ∧
        transcript.entries.map Entry.relisted <+: (listing executor.selectedStages).entries) ∧
      (used.state = .completed →
        transcript.labels = executor.selectedStages.map Stage.label ∧
          transcript.entries.map Entry.relisted = (listing executor.selectedStages).entries) ∧
      ∀ (δ ι : Type) (backend : Backend δ ι) (design : δ) (invoker : ι) (later : List Call),
        configuration.mode = .execute → calls = .run backend design invoker :: later →
        let handed := executor.calls backend design invoker
        transcript.commands = handed.map Invocation.command ∧
          transcript.entries.map Entry.outcome = backend.outcomes handed design invoker := by
  intro used transcript
  obtain ⟨hscript, hpending⟩ := fresh_of_select hselect
  obtain ⟨⟨hlabels, hentries, chapters, hchapters⟩, hcompleted⟩ := reports_after_calls hselect calls
  have hnodup : transcript.labels.Nodup := by
    have hstages := executor.selected_labels_sublist
    rw [hscript, Script.labels_build] at hstages
    exact (hlabels.sublist.trans hstages).nodup (by decide)
  refine ⟨hnodup, fun entry hentry => hchapters.stage_mem hentry,
    ⟨chapters, hchapters, hchapters.text_eq hnodup⟩, ⟨hlabels, hentries⟩, hcompleted, ?_⟩
  rintro δ ι backend design invoker later hmode rfl
  have hexecute : executor.script.mode = .execute := by
    rw [hscript]
    exact hmode
  have hstays : used = (executor.run backend design invoker).executor :=
    after_calls_of_used (settled_perform hpending _).used later
  simp only [transcript, hstays]
  exact entries_of_run hpending (transcript_of_select hselect) hexecute backend design invoker

/-- A run reaches an empty stage and fails at the second command of the next one. Later calls change
nothing. -/
theorem text_shows_each_entry_once_of_failure :
    let configuration : Configuration :=
      Options.configure { outputs := { edif := some "my out" } } .k6n10f
    let executor : Executor := { script := Script.build configuration, start := 11, stop := 12 }
    let first : Call := .run Recorder.backend { loaded := true } { failAt := some 2 }
    let transcript := (executor.afterCalls [first, .explain]).transcript
    select (Script.build configuration) ⟨some "iomap", some "finalize"⟩ = .ok executor ∧
      transcript.text =
        "iomap:\n\nfinalize:\n" ++
          "    hilomap -hicell logic_1 a -locell logic_0 a -singleton A:top" ++
          "    (for pp3 or if -edif)\n    opt_clean -purge    [FAILED]\n\n" ∧
      (∃ chapters, transcript.DividesInto chapters ∧
        transcript.text = String.join (chapters.map Chapter.text)) ∧
      transcript.commands =
        ["hilomap -hicell logic_1 a -locell logic_0 a -singleton A:top", "opt_clean -purge"] ∧
      transcript.entries.map Entry.outcome = [.invoked, .failed] := by
  intro configuration executor first transcript
  have hselect : select (Script.build configuration) ⟨some "iomap", some "finalize"⟩ =
      .ok executor := rfl
  obtain ⟨-, -, hchapters, -, -, hhanded⟩ := text_shows_each_entry_once hselect [first, .explain]
  obtain ⟨hcommands, houtcomes⟩ := hhanded _ _ _ _ _ _ rfl rfl
  exact ⟨hselect, by decide +kernel, hchapters, hcommands, houtcomes⟩

end Executor

end StagedSynthesis
