import StagedSynthesis.Proofs.Endings
import StagedSynthesis.Proofs.Session.Line
import StagedSynthesis.Proofs.Session.Stream

/-!
# Error reports in an answer

A tool answers a command in lines, and some of them may report errors. `execute_eq_error_iff` and
`execute_eq_ok_iff` say which answers make the command fail: a line is read with the line feed that
ends it, so only reports with a blank message count, and they fail the command with an empty
message. By `reported_error_fails_command_iff` the message of a report becomes the cause of the
failure, and stops a script there, exactly if that message is blank.
-/

namespace StagedSynthesis.Session

open Text

variable {τ : Type}

/-! ## What an ended line means -/

/-- A line, without its prompts, is the awaited marker. -/
def Acknowledges (awaited line : String) : Prop :=
  ∃ rest, StripsTo line.toList rest ∧ trimEnd rest = awaited.toList

/-- A line, without its prompts, reports an error. -/
def ReportsError (line : String) (message : List Char) : Prop :=
  ∃ rest, StripsTo line.toList rest ∧ Reports rest message

/-- A line reports an error and says nothing about it. -/
def ReportsBlank (line : String) : Prop :=
  ∃ message, ReportsError line message ∧ Blank message

/-- A line acknowledges exactly if the awaited text is left without prompts and blanks at its end.
-/
theorem acknowledges_iff {awaited line : String} :
    Acknowledges awaited line ↔ trimEnd (withoutPrompts line.toList) = awaited.toList := by
  simp only [Acknowledges, ← without_prompts_eq_iff, exists_eq_left']

instance (awaited line : String) : Decidable (Acknowledges awaited line) :=
  decidable_of_iff _ acknowledges_iff.symm

/-- A line reports an error exactly if what is left without prompts does. -/
theorem reports_error_iff {line : String} {message : List Char} :
    ReportsError line message ↔ Reports (withoutPrompts line.toList) message := by
  simp only [ReportsError, ← without_prompts_eq_iff, exists_eq_left']

/-- A report with nothing to say is one that is recognised in front of a line feed. -/
theorem reports_blank_iff {line : String} :
    ReportsBlank line ↔ errorMessage? (withoutPrompts line.toList ++ ['\n']) = some [] := by
  simp only [ReportsBlank, reports_error_iff, error_message_ended_iff, true_and]

instance (line : String) : Decidable (ReportsBlank line) :=
  decidable_of_iff _ reports_blank_iff.symm

/-- The line break at the end of a line is no part of a prompt. -/
theorem without_prompts_ended (line : String) :
    withoutPrompts (ended line).toList = withoutPrompts line.toList ++ ['\n'] := by
  rw [ended, String.toList_append]
  exact without_prompts_eq_iff.mpr (strips_to_without_prompts line.toList).ended

/-- A line counts as an acknowledgement if it is one. -/
theorem classify_eq_acknowledgement_iff {awaited line : String} :
    classify awaited line = .acknowledgement ↔ Acknowledges awaited line := by
  rw [acknowledges_iff, ← String.ofList_inj, String.ofList_toList]
  simp only [classify]
  split
  · next hmarker => exact iff_of_true rfl hmarker
  · next hmarker =>
      refine iff_of_false ?_ hmarker
      split <;> exact LineMeaning.noConfusion

/-- The line feed that ends a line does not hide its marker. -/
theorem classify_ended_eq_acknowledgement_iff {awaited line : String} :
    classify awaited (ended line) = .acknowledgement ↔ Acknowledges awaited line := by
  rw [classify_eq_acknowledgement_iff, acknowledges_iff, acknowledges_iff, without_prompts_ended,
    trim_end_append_blank _ blank_line_feed]

/-- A line that is no acknowledgement counts as an error if a message is recognised in it. -/
theorem classify_of_not_acknowledges {awaited line : String} (hack : ¬ Acknowledges awaited line) :
    classify awaited line =
      ((errorMessage? (withoutPrompts line.toList)).map fun message =>
        LineMeaning.error (String.ofList message)).getD .other := by
  rw [acknowledges_iff, ← String.ofList_inj, String.ofList_toList] at hack
  simp only [classify, if_neg hack]
  cases errorMessage? (withoutPrompts line.toList) <;> rfl

/-- The line feed that ends a line hides every report with something to say. -/
theorem error_classify_ended_iff {awaited line : String} {message : String}
    (hack : ¬ Acknowledges awaited line) :
    (classify awaited (ended line)).error? = some message ↔
      message = "" ∧ ReportsBlank line := by
  rw [← classify_ended_eq_acknowledgement_iff, classify_eq_acknowledgement_iff] at hack
  rw [classify_of_not_acknowledges hack, without_prompts_ended, reports_blank_iff]
  cases hfound : errorMessage? (withoutPrompts line.toList ++ ['\n']) with
  | none => simp [LineMeaning.error?]
  | some recognised =>
      obtain ⟨rfl, -⟩ := error_message_ended_iff.mp hfound
      simp [LineMeaning.error?, eq_comm]

/-- The first error in some ended lines is a report with nothing to say. -/
theorem first_error_ended_eq_some_iff {awaited : String} {lines : List String} {message : String}
    (hearlier : ∀ line ∈ lines, ¬ Acknowledges awaited line) :
    firstError? awaited (lines.map ended) = some message ↔
      message = "" ∧ ∃ line ∈ lines, ReportsBlank line := by
  have hfound : ∀ {found : String}, firstError? awaited (lines.map ended) = some found →
      found = "" ∧ ∃ line ∈ lines, ReportsBlank line := by
    intro found h
    obtain ⟨text, htext, herror⟩ := List.exists_of_findSome?_eq_some h
    obtain ⟨line, hline, rfl⟩ := List.mem_map.mp htext
    obtain ⟨hempty, hblank⟩ := (error_classify_ended_iff (hearlier line hline)).mp herror
    exact ⟨hempty, line, hline, hblank⟩
  refine ⟨hfound, ?_⟩
  -- Whichever error is found is empty, so it is enough that one is found.
  rintro ⟨rfl, line, hline, hblank⟩
  have herror := (error_classify_ended_iff (hearlier line hline)).mpr ⟨rfl, hblank⟩
  have hsome : (firstError? awaited (lines.map ended)).isSome = true :=
    List.findSome?_isSome_iff.mpr ⟨ended line, List.mem_map_of_mem hline, by rw [herror]; rfl⟩
  obtain ⟨found, h⟩ := Option.isSome_iff_exists.mp hsome
  rw [h, (hfound h).1]

/-! ## What an answer means -/

/-- A session that is not broken sends a command, and the tool answers in lines of which only the
last acknowledges it. -/
structure Answered (session : Session τ) (tool : Tool τ) (command : String)
    (lines : List String) : Prop where
  intact : session.broken = none
  printed : ∃ process printed ack unread,
    tool.receive session.process (request command (session.count + 1)) = .ok (process, printed) ∧
      session.unread ++ printed = output (lines ++ [ack]) ++ unread ∧
      '\n' ∉ ack.toList ∧ Acknowledges (marker (session.count + 1)) ack
  single : ∀ line ∈ lines, '\n' ∉ line.toList
  earlier : ∀ line ∈ lines, ¬ Acknowledges (marker (session.count + 1)) line

namespace Answered

variable {session : Session τ} {tool : Tool τ} {command : String} {lines : List String}

/-- The verdict on a command is the first error in the lines of its answer. -/
theorem execute_eq (h : session.Answered tool command lines) :
    (session.execute tool command).2 =
      verdict (firstError? (marker (session.count + 1)) (lines.map ended)) := by
  obtain ⟨process, printed, ack, unread, hreceive, hprinted, hackLine, hack⟩ := h.printed
  have hread := read_stream_output h.single hackLine
    (fun line hline hmarker =>
      h.earlier line hline (classify_ended_eq_acknowledgement_iff.mp hmarker))
    (classify_ended_eq_acknowledgement_iff.mpr hack) unread
  rw [← hprinted] at hread
  exact execute_of_acknowledged h.intact hreceive hread

/-- A command fails if and only if some line of its answer reports an error with a blank message,
and then it fails with nothing to say. -/
theorem execute_eq_error_iff (h : session.Answered tool command lines) {message : String} :
    (session.execute tool command).2 = .error message ↔
      message = "" ∧ ∃ line ∈ lines, ReportsBlank line := by
  rw [h.execute_eq, verdict_eq_error_iff, first_error_ended_eq_some_iff h.earlier]

/-- A command succeeds exactly if no line of its answer reports an error. -/
theorem execute_eq_ok_iff (h : session.Answered tool command lines) :
    (session.execute tool command).2 = .ok () ↔ ∀ line ∈ lines, ¬ ReportsBlank line := by
  rw [h.execute_eq, verdict_eq_ok_iff]
  constructor
  · intro hnone line hline hblank
    rw [(first_error_ended_eq_some_iff h.earlier).mpr ⟨rfl, line, hline, hblank⟩] at hnone
    contradiction
  · intro hnone
    rw [Option.eq_none_iff_forall_ne_some]
    intro found hfound
    obtain ⟨-, line, hline, hblank⟩ := (first_error_ended_eq_some_iff h.earlier).mp hfound
    exact hnone line hline hblank

end Answered

/-- The message of a reported error becomes the cause of a failure if and only if it is blank. This
holds of every report in an answer, so of the first one too. A command whose answer reports errors,
but none with a blank message, succeeds, and a script that sends it goes on. -/
theorem reported_error_fails_command_iff {session : Session τ} {tool : Tool τ} {command : String}
    {lines : List String} (hanswered : session.Answered tool command lines)
    {reported : String} (hline : reported ∈ lines) {message : List Char}
    (hreported : ReportsError reported message) :
    ((session.execute tool command).2 = .error (String.ofList (trim message)) ↔ Blank message) ∧
      ((session.execute tool command).2 = .ok () ↔ ∀ line ∈ lines, ¬ ReportsBlank line) ∧
      ∀ (executor : Executor) (start : Session τ) (position : Position executor.selectedStages),
        executor.Reaches (backend tool) start () position (session, ()) →
        position.invocation.command = command →
        let run := executor.run (backend tool) start ()
        (run.AbortedAt (backend tool) position start () (String.ofList (trim message)) ↔
            Blank message) ∧
          ((∃ cause, run.AbortedAt (backend tool) position start () cause) ↔
            ∃ line ∈ lines, ReportsBlank line) := by
  have hempty : String.ofList (trim message) = "" ↔ Blank message := by
    rw [← trim_eq_nil_iff, ← String.ofList_inj]
  have hverdict : (session.execute tool command).2 = .error (String.ofList (trim message)) ↔
      Blank message := by
    rw [hanswered.execute_eq_error_iff, hempty]
    exact and_iff_left_of_imp fun hblank => ⟨reported, hline, message, hreported, hblank⟩
  refine ⟨hverdict, hanswered.execute_eq_ok_iff, ?_⟩
  rintro executor start position hreaches rfl run
  have haborted : ∀ {cause : String}, run.AbortedAt (backend tool) position start () cause ↔
      (session.execute tool position.invocation.command).2 = .error cause :=
    hreaches.aborted_at_iff
  refine ⟨haborted.trans hverdict, ?_⟩
  simp only [haborted, hanswered.execute_eq_error_iff, exists_eq_left]

/-- A tool that prints the same bytes whatever it is sent. -/
def printing (printed : List UInt8) : Tool Unit where
  receive _ _ := .ok ((), printed)
  exitStatus _ := 0

/-- A process that prints some lines and an acknowledgement answers the next command with these
lines. -/
theorem answered_printing {session : Session Unit} (hintact : session.broken = none)
    (hunread : session.unread = []) (command : String) {lines : List String} {ack : String}
    (hackLine : '\n' ∉ ack.toList) (hack : Acknowledges (marker (session.count + 1)) ack)
    (hlines : ∀ line ∈ lines, '\n' ∉ line.toList)
    (hearlier : ∀ line ∈ lines, ¬ Acknowledges (marker (session.count + 1)) line) :
    session.Answered (printing (output (lines ++ [ack]))) command lines := by
  refine ⟨hintact, ⟨(), _, ack, [], rfl, ?_, hackLine, hack⟩, hlines, hearlier⟩
  rw [hunread, List.nil_append, List.append_nil]

/-- A report without a message behind two prompts stops a script. -/
theorem reported_error_fails_command_behind_prompts :
    let lines := ["Printing statistics.", "yosys> yosys [top]> \tERROR: "]
    let tool := printing (output (lines ++ ["yosys> qlsynth-ack-1"]))
    let session : Session Unit := { process := (), loaded := true }
    let stage : Stage := ⟨"check", [⟨"stat", .always⟩]⟩
    let executor : Executor := { script := ⟨.execute, [stage]⟩, start := 0, stop := 0 }
    let position : Position executor.selectedStages :=
      ⟨[], stage, [], [], ⟨"stat", .always⟩, [], rfl, rfl⟩
    session.Answered tool "stat" lines ∧
      ReportsError "yosys> yosys [top]> \tERROR: " [' '] ∧
      (session.execute tool "stat").2 = .error "" ∧
      (executor.run (backend tool) session ()).AbortedAt (backend tool) position session () "" := by
  intro lines tool session stage executor position
  have hanswered : session.Answered tool "stat" lines :=
    answered_printing rfl rfl "stat" (by decide) (by decide +kernel) (by decide)
      (by decide +kernel)
  have hreported : ReportsError "yosys> yosys [top]> \tERROR: " [' '] :=
    reports_error_iff.mpr ⟨['\t'], by decide, by decide +kernel⟩
  have hreaches : executor.Reaches (backend tool) session () position (session, ()) :=
    ⟨rfl, rfl, rfl, trivial, rfl⟩
  obtain ⟨hverdict, -, hrun⟩ :=
    reported_error_fails_command_iff hanswered (by decide) hreported
  obtain ⟨haborted, -⟩ := hrun executor session position hreaches rfl
  exact ⟨hanswered, hreported, hverdict.mpr (by decide), haborted.mpr (by decide)⟩

/-- The only line of an answer reports an error with a message, and the command succeeds. -/
theorem reported_error_goes_unnoticed :
    let lines := ["ERROR: cannot run stat"]
    let tool := printing (output (lines ++ ["qlsynth-ack-1"]))
    (start ()).Answered tool "stat" lines ∧
      ReportsError "ERROR: cannot run stat" " cannot run stat".toList ∧
      (execute tool (start ()) "stat").2 = .ok () ∧
      (execute tool (start ()) "stat").2 ≠
        .error (String.ofList (trim " cannot run stat".toList)) := by
  intro lines tool
  have hanswered : (start ()).Answered tool "stat" lines :=
    answered_printing rfl rfl "stat" (by decide) (by decide +kernel) (by decide)
      (by decide +kernel)
  have hreported : ReportsError "ERROR: cannot run stat" " cannot run stat".toList :=
    reports_error_iff.mpr ⟨[], by decide, by decide +kernel⟩
  have hverdict : (execute tool (start ()) "stat").2 = .ok () :=
    hanswered.execute_eq_ok_iff.mpr (by decide +kernel)
  refine ⟨hanswered, hreported, hverdict, ?_⟩
  rw [hverdict]
  intro h
  cases h

end StagedSynthesis.Session
