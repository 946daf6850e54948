import Mathlib.Data.List.DropRight
import StagedSynthesis.Proofs.Session.Reports
import StagedSynthesis.Proofs.Session.Sending

/-!
# Whose answer it is

A session and its tool take turns, and both sides number the commands. An answer may hold any lines,
the markers of other commands among them, and the tool may acknowledge a command more often than
once. What it prints too much stays unread until the next command. The invariant `InStep` says that
nothing else is ever left unread, and `InStep.execute` that a command keeps it. The main theorem,
`verdicts_follow_answers`, concludes for whole conversations that every verdict is that of the
command's own answer.
-/

namespace StagedSynthesis.Session

open Text

variable {τ : Type}

/-! ## Markers -/

/-- Different commands have different markers, because the digits of a number determine it. -/
theorem marker_injective : Function.Injective marker := by
  intro first second h
  exact decimal_injective ((String.append_right_inj _).mp h)

/-- A marker starts with the letter `q` and ends with its number. -/
theorem to_list_marker (number : Nat) :
    (marker number).toList = 'q' :: ("lsynth-ack-".toList ++ (decimal number).toList) := by
  simp [marker]

/-- No line acknowledges two commands. -/
theorem Acknowledges.number_eq {first second : Nat} {line : String}
    (hfirst : Acknowledges (marker first) line) (hsecond : Acknowledges (marker second) line) :
    first = second := by
  rw [acknowledges_iff] at hfirst hsecond
  exact marker_injective (String.toList_inj.mp (hfirst.symm.trans hsecond))

/-- The marker leads what stands behind the prompts of a line that acknowledges a command. -/
theorem Acknowledges.head {number : Nat} {line : String} (h : Acknowledges (marker number) line) :
    ∃ rest, withoutPrompts line.toList = 'q' :: rest := by
  rw [acknowledges_iff] at h
  have hlead : trimEnd (withoutPrompts line.toList) <+: withoutPrompts line.toList :=
    List.rdropWhile_prefix isBlank _
  obtain ⟨rest, hrest⟩ := hlead
  rw [h, to_list_marker] at hrest
  exact ⟨_, hrest.symm⟩

/-- A line that acknowledges a command reports no error. -/
theorem Acknowledges.not_reports {number : Nat} {line : String} {message : List Char}
    (h : Acknowledges (marker number) line) : ¬ ReportsError line message := by
  obtain ⟨rest, hrest⟩ := h.head
  rw [reports_error_iff, hrest]
  intro hreports
  -- The first letter of a marker is not blank, and not the first letter of a report.
  have htrimmed := hreports.trim_start
  change 'q' :: _ = 'E' :: _ at htrimmed
  exact absurd (List.cons.inj htrimmed).1 (by decide)

/-! ## Answers -/

/-- A command and the answer to it: the lines of a text, and the lines that acknowledge the command
behind them. -/
structure Exchange where
  command : String
  lines : List String
  acknowledgements : List String

namespace Exchange

/-- What the tool prints. -/
def printed (exchange : Exchange) : List UInt8 :=
  output (exchange.lines ++ exchange.acknowledgements)

/-- The answer is one to the command with a number: the text does not acknowledge it, and at least
one line behind the text does. -/
structure Answers (exchange : Exchange) (number : Nat) : Prop where
  single : ∀ line ∈ exchange.lines ++ exchange.acknowledgements, '\n' ∉ line.toList
  text : ∀ line ∈ exchange.lines, ¬ Acknowledges (marker number) line
  acknowledged : ∀ line ∈ exchange.acknowledgements, Acknowledges (marker number) line
  ends : exchange.acknowledgements ≠ []

/-- The verdict on a command with a number by the text of its own answer: the first error in it. -/
def verdict (exchange : Exchange) (number : Nat) : Except String Unit :=
  Session.verdict (firstError? (marker number) (exchange.lines.map ended))

end Exchange

/-- A tool that has answered some commands goes on to answer others, one exchange for each. -/
inductive Converses (tool : Tool τ) : Nat → τ → List Exchange → Prop
  | done (count : Nat) (process : τ) : Converses tool count process []
  | next {count : Nat} {process after : τ} {exchange : Exchange} {rest : List Exchange}
      (hanswers : exchange.Answers (count + 1))
      (hreceive : tool.receive process (request exchange.command (count + 1)) =
        .ok (after, exchange.printed))
      (hrest : Converses tool (count + 1) after rest) :
      Converses tool count process (exchange :: rest)

/-- The first exchanges of a conversation are one. -/
theorem Converses.take {tool : Tool τ} {count : Nat} {process : τ} {exchanges : List Exchange}
    (h : Converses tool count process exchanges) (length : Nat) :
    Converses tool count process (exchanges.take length) := by
  induction h generalizing length with
  | done count process =>
      rw [List.take_nil]
      exact .done count process
  | next hanswers hreceive hrest ih =>
      cases length with
      | zero => exact .done _ _
      | succ length => exact .next hanswers hreceive (ih length)

/-! ## The session keeps in step -/

/-- A session is not broken, and nothing is left unread but lines that acknowledge its last command
once more. -/
structure InStep (session : Session τ) : Prop where
  intact : session.broken = none
  unread : ∃ surplus, session.unread = output surplus ∧
    ∀ line ∈ surplus, '\n' ∉ line.toList ∧ Acknowledges (marker session.count) line

/-- A new session is in step. -/
theorem in_step_start (process : τ) : (start process).InStep :=
  ⟨rfl, [], rfl, fun _ h => absurd h List.not_mem_nil⟩

/-- Lines one after the other are printed one after the other. -/
theorem output_append (first second : List String) :
    output (first ++ second) = output first ++ output second :=
  List.flatMap_append

/-- Surplus acknowledgements of another command add no error. -/
theorem first_error_surplus {number awaited : Nat} (hother : number ≠ awaited)
    {surplus : List String} (hsurplus : ∀ line ∈ surplus, Acknowledges (marker number) line)
    (lines : List String) :
    firstError? (marker awaited) ((surplus ++ lines).map ended) =
      firstError? (marker awaited) (lines.map ended) := by
  have hnone : firstError? (marker awaited) (surplus.map ended) = none := by
    rw [Option.eq_none_iff_forall_ne_some]
    intro message hmessage
    have hearlier : ∀ line ∈ surplus, ¬ Acknowledges (marker awaited) line := by
      intro line hline hack
      exact hother ((hsurplus line hline).number_eq hack)
    obtain ⟨-, line, hline, reported, hreported, -⟩ :=
      (first_error_ended_eq_some_iff hearlier).mp hmessage
    exact (hsurplus line hline).not_reports hreported
  rw [List.map_append, firstError?, List.findSome?_append, ← firstError?, hnone]
  rfl

variable {tool : Tool τ} {session : Session τ} {exchange : Exchange} {process : τ}

/-- A session in step reads past what was left unread, takes the text of the answer as its own, and
leaves the acknowledgements behind the first one unread. -/
theorem InStep.execute_eq (h : session.InStep) (hanswers : exchange.Answers (session.count + 1))
    (hreceive : tool.receive session.process (request exchange.command (session.count + 1)) =
      .ok (process, exchange.printed)) :
    session.execute tool exchange.command =
      ({ session.requested exchange.command process with
          unread := output exchange.acknowledgements.tail },
        exchange.verdict (session.count + 1)) := by
  obtain ⟨surplus, hunread, hsurplus⟩ := h.unread
  obtain ⟨ack, others, hacks⟩ := List.exists_cons_of_ne_nil hanswers.ends
  have hack : Acknowledges (marker (session.count + 1)) ack :=
    hanswers.acknowledged ack (hacks ▸ List.mem_cons_self)
  have hackLine : '\n' ∉ ack.toList :=
    hanswers.single ack (List.mem_append_right _ (hacks ▸ List.mem_cons_self))
  have hother : session.count ≠ session.count + 1 := by omega
  have hlines : ∀ line ∈ surplus ++ exchange.lines, '\n' ∉ line.toList := by
    intro line hline
    rcases List.mem_append.mp hline with hline | hline
    · exact (hsurplus line hline).1
    · exact hanswers.single line (List.mem_append_left _ hline)
  have hearlier : ∀ line ∈ surplus ++ exchange.lines,
      classify (marker (session.count + 1)) (ended line) ≠ .acknowledgement := by
    intro line hline hmarker
    have hline' := classify_ended_eq_acknowledgement_iff.mp hmarker
    rcases List.mem_append.mp hline with hline | hline
    · exact hother ((hsurplus line hline).2.number_eq hline')
    · exact hanswers.text line hline hline'
  -- What is read consists of the surplus, the text, the first acknowledgement and the others.
  have hstream : session.unread ++ exchange.printed =
      output ((surplus ++ exchange.lines) ++ [ack]) ++ output others := by
    rw [hunread, Exchange.printed, hacks, ← output_append, ← output_append]
    congr 1
    simp
  rw [execute_of_received h.intact hreceive, hstream,
    read_stream_output hlines hackLine hearlier
      (classify_ended_eq_acknowledgement_iff.mpr hack),
    first_error_surplus hother fun line hline => (hsurplus line hline).2, hacks]
  rfl

/-- A command that is answered leaves the session in step. -/
theorem InStep.execute (h : session.InStep) (hanswers : exchange.Answers (session.count + 1))
    (hreceive : tool.receive session.process (request exchange.command (session.count + 1)) =
      .ok (process, exchange.printed)) :
    (session.execute tool exchange.command).1.InStep := by
  rw [h.execute_eq hanswers hreceive]
  refine ⟨h.intact, exchange.acknowledgements.tail, rfl, ?_⟩
  intro line hline
  have hmem := List.mem_of_mem_tail hline
  exact ⟨hanswers.single line (List.mem_append_right _ hmem), hanswers.acknowledged line hmem⟩

/-- Execute commands in turn, whether or not they succeed, and collect the verdicts. -/
def executeAll (tool : Tool τ) : List String → Session τ → Session τ × List (Except String Unit)
  | [], session => (session, [])
  | command :: rest, session =>
      let (after, verdict) := session.execute tool command
      let (last, verdicts) := executeAll tool rest after
      (last, verdict :: verdicts)

/-- The verdicts on commands that are numbered on from a count, each by its own answer. -/
def verdicts (count : Nat) : List Exchange → List (Except String Unit)
  | [] => []
  | exchange :: rest => exchange.verdict (count + 1) :: verdicts (count + 1) rest

/-- A session in step stays in step with a tool that goes on answering. -/
theorem InStep.execute_all (h : session.InStep) {exchanges : List Exchange}
    (hconverses : Converses tool session.count session.process exchanges) :
    let talk := executeAll tool (exchanges.map Exchange.command) session
    talk.1.InStep ∧ talk.2 = verdicts session.count exchanges ∧
      talk.1.written =
        session.written ++ requests session.count (exchanges.map Exchange.command) := by
  induction exchanges generalizing session with
  | nil => exact ⟨h, rfl, (List.append_nil _).symm⟩
  | cons exchange rest ih =>
      cases hconverses with
      | next hanswers hreceive hrest =>
          have hstep := h.execute hanswers hreceive
          have heq := h.execute_eq hanswers hreceive
          rw [heq] at hstep
          obtain ⟨hlast, hverdicts, hwritten⟩ := ih hstep hrest
          simp only [List.map_cons, executeAll, heq]
          refine ⟨hlast, ?_, ?_⟩
          · rw [hverdicts]
            rfl
          · rw [hwritten, requests, ← request_eq_asking]
            exact List.append_assoc _ _ _

/-- A tool answers every command with a text that does not acknowledge it and with one or more lines
that do. Then, after any number of commands, the session is not broken, each command had the verdict
of its own text, and the tool was written the commands, each with the line that asks for its marker,
under consecutive numbers. -/
theorem verdicts_follow_answers {exchanges : List Exchange}
    (hconverses : Converses tool 0 process exchanges) (length : Nat) :
    let asked := exchanges.take length
    let commands := asked.map Exchange.command
    let talk := executeAll tool commands (start process)
    talk.1.broken = none ∧ talk.2 = verdicts 0 asked ∧
      talk.1.written.flatMap bytesOf = output (dialogue 0 commands) := by
  intro asked commands talk
  obtain ⟨hstep, hverdicts, hwritten⟩ :=
    (in_step_start process).execute_all (hconverses.take length)
  refine ⟨hstep.intact, hverdicts, ?_⟩
  rw [← bytes_of_requests, hwritten]
  rfl

/-- A tool that prints the next of some prepared outputs whenever it is sent a text. -/
def reciting : Tool (List (List UInt8)) where
  receive prepared _ := .ok (prepared.tail, prepared.headD [])
  exitStatus _ := 0

/-- The first answer echoes a request, names the marker to come, fails its command and acknowledges
it three times. The second one starts with the marker before and with one that is too long. -/
theorem verdicts_follow_answers_past_surplus :
    let exchanges : List Exchange :=
      [⟨"proc", ["yosys> log qlsynth-ack-1", "qlsynth-ack-2", "ERROR: "],
          ["yosys> qlsynth-ack-1", "yosys> yosys [top]> qlsynth-ack-1 ", "qlsynth-ack-1"]⟩,
        ⟨"flatten", ["yosys> qlsynth-ack-1", "qlsynth-ack-21"], ["qlsynth-ack-2"]⟩]
    let prepared := exchanges.map Exchange.printed
    let talk := executeAll reciting ["proc", "flatten"] (start prepared)
    Converses reciting 0 prepared exchanges ∧ talk.1.broken = none ∧
      talk.2 = [.error "", .ok ()] ∧
      talk.1.written.flatMap bytesOf =
        output ["proc", "log qlsynth-ack-1", "flatten", "log qlsynth-ack-2"] := by
  intro exchanges prepared talk
  have hconverses : Converses reciting 0 prepared exchanges := by
    refine .next ⟨?_, ?_, ?_, ?_⟩ rfl (.next ⟨?_, ?_, ?_, ?_⟩ rfl (.done _ _))
    all_goals decide +kernel
  obtain ⟨hintact, hverdicts, hwritten⟩ := verdicts_follow_answers hconverses 2
  have hfailed : verdicts 0 exchanges = [.error "", .ok ()] := by
    have hfirst : exchanges[0].verdict 1 = .error "" :=
      verdict_eq_error_iff.mpr (by decide +kernel)
    have hsecond : exchanges[1].verdict 2 = .ok () :=
      verdict_eq_ok_iff.mpr (by decide +kernel)
    exact congrArg₂ (fun first second => [first, second]) hfirst hsecond
  exact ⟨hconverses, hintact, hverdicts.trans hfailed, hwritten⟩

end StagedSynthesis.Session
