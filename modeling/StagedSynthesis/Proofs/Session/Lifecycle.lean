import StagedSynthesis.Proofs.Conversation

/-!
# The life of a session

A session has two pieces of state that its calls share: why it is broken, and whether a design is
loaded. Any calls in any order keep what the two stand for. A reason is never replaced, and from
then on nothing reaches the tool. The mark that a design is loaded always tells what the last
successful read did. Read `perform_of_broken` and `loaded_perform` first, which say this of one
call; the main theorem, `session_lifecycle`, follows for whole sequences of calls.
-/

namespace StagedSynthesis.Session

variable {τ : Type}

/-! ## Calls -/

/-- A call on a session. -/
inductive Call where
  | execute (command : String)
  | readInputs (inputs : List String)
  | readCheckpoint (path : String)
  | writeCheckpoint (path : String)
  deriving DecidableEq, Repr

/-- Why a call failed. -/
inductive CallProblem where
  | command (cause : String)
  | session (problem : SessionProblem)
  deriving DecidableEq, Repr

/-- Why the command failed that made a call fail. -/
def CallProblem.cause? : CallProblem → Option String
  | .command cause => some cause
  | .session (.readingInput _ cause) => some cause
  | .session (.readingCheckpoint _ cause) => some cause
  | .session (.writingCheckpoint _ cause) => some cause
  | .session (.exitStatus _) => none

namespace Call

/-- Whether the call reads a design. -/
def isRead : Call → Bool
  | .readInputs _ | .readCheckpoint _ => true
  | .execute _ | .writeCheckpoint _ => false

/-- Whether the call leaves a design loaded where it succeeds in reading. -/
def loads : Call → Bool
  | .readInputs inputs => !inputs.isEmpty
  | .readCheckpoint _ => true
  | .execute _ | .writeCheckpoint _ => false

/-- Whether the call executes any command. -/
def executes : Call → Bool
  | .readInputs inputs => !inputs.isEmpty
  | .execute _ | .readCheckpoint _ | .writeCheckpoint _ => true

end Call

/-- How a call ended. -/
abbrev Ending := Except CallProblem Unit

/-- Carry out a call. -/
def perform (tool : Tool τ) (session : Session τ) : Call → Session τ × Ending
  | .execute command =>
      let (after, result) := session.execute tool command
      (after, result.mapError .command)
  | .readInputs inputs =>
      let (after, result) := session.readInputs tool inputs
      (after, result.mapError .session)
  | .readCheckpoint path =>
      let (after, result) := session.readCheckpoint tool path
      (after, result.mapError .session)
  | .writeCheckpoint path =>
      let (after, result) := session.writeCheckpoint tool path
      (after, result.mapError .session)

/-- Carry out calls in turn, whether or not they succeed, and keep a log of how each ended. -/
def performAll (tool : Tool τ) : List Call → Session τ → Session τ × List (Call × Ending)
  | [], session => (session, [])
  | call :: rest, session =>
      let (after, ending) := session.perform tool call
      let (last, log) := performAll tool rest after
      (last, (call, ending) :: log)

/-- The last call of a log that succeeded in reading. -/
def lastRead? (log : List (Call × Ending)) : Option Call :=
  (log.filter fun entry => entry.1.isRead && entry.2.isOk).getLast?.map Prod.fst

variable {tool : Tool τ} {session : Session τ} {reason : String}

/-- Of several calls the first is performed, then the others on what it leaves. -/
theorem perform_all_cons (tool : Tool τ) (session : Session τ) (call : Call) (rest : List Call) :
    performAll tool (call :: rest) session =
      ((performAll tool rest (session.perform tool call).1).1,
        (call, (session.perform tool call).2) ::
          (performAll tool rest (session.perform tool call).1).2) :=
  rfl

/-! ## Broken sessions -/

/-- A broken session answers every command with the reason why it is broken. -/
theorem execute_of_broken (h : session.broken = some reason) (tool : Tool τ) (command : String) :
    session.execute tool command = (session, .error reason) := by
  simp only [execute, h]

/-- A broken session is left as it is by every call that would execute a command, and the call fails
for the reason that broke the session. -/
theorem perform_of_broken (h : session.broken = some reason) (tool : Tool τ) {call : Call}
    (hexecutes : call.executes = true) :
    ∃ problem, session.perform tool call = (session, .error problem) ∧
      problem.cause? = some reason := by
  cases call with
  | execute command =>
      refine ⟨.command reason, ?_, rfl⟩
      rw [perform, execute_of_broken h]
      rfl
  | readInputs inputs =>
      cases inputs with
      | nil => cases hexecutes
      | cons input rest =>
          refine ⟨.session (.readingInput input reason), ?_, rfl⟩
          simp only [perform, readInputs, readEach, execute_of_broken h]
          rfl
  | readCheckpoint path =>
      refine ⟨.session (.readingCheckpoint path reason), ?_, rfl⟩
      simp only [perform, readCheckpoint, execute_of_broken h]
      rfl
  | writeCheckpoint path =>
      refine ⟨.session (.writingCheckpoint path reason), ?_, rfl⟩
      simp only [perform, writeCheckpoint, execute_of_broken h]
      rfl

/-- Nothing changes between two states of a session but whether a design is loaded. -/
def SameTalk (before after : Session τ) : Prop :=
  after = { before with loaded := after.loaded }

/-- What changes in neither of two steps does not change in both. -/
theorem SameTalk.trans {first second third : Session τ} (h : first.SameTalk second)
    (hnext : second.SameTalk third) : first.SameTalk third :=
  Eq.trans hnext (congrArg (fun session => { session with loaded := third.loaded }) h)

/-- If at most the loaded design changes, nothing is said or heard, and nothing breaks. -/
theorem SameTalk.unchanged {before after : Session τ} (h : before.SameTalk after) :
    after.broken = before.broken ∧ after.heard = before.heard ∧ after.count = before.count := by
  rw [h]
  exact ⟨rfl, rfl, rfl⟩

/-- A broken session talks no more. -/
theorem same_talk_perform (h : session.broken = some reason) (tool : Tool τ) (call : Call) :
    session.SameTalk (session.perform tool call).1 := by
  cases hexecutes : call.executes with
  | true =>
      obtain ⟨problem, hperform, -⟩ := perform_of_broken h tool hexecutes
      rw [hperform]
      rfl
  | false =>
      -- Only reading no inputs executes nothing.
      cases call with
      | execute | readCheckpoint | writeCheckpoint => cases hexecutes
      | readInputs inputs =>
          cases inputs with
          | nil => rfl
          | cons => cases hexecutes

/-- However a broken session is used, it stays broken for the same reason, nothing is written and no
command is numbered. -/
theorem perform_all_of_broken (h : session.broken = some reason) (tool : Tool τ)
    (calls : List Call) :
    let talk := performAll tool calls session
    session.SameTalk talk.1 ∧
      ∀ entry ∈ talk.2, entry.1.executes = true →
        ∃ problem, entry.2 = .error problem ∧ problem.cause? = some reason := by
  induction calls generalizing session with
  | nil => exact ⟨rfl, List.forall_mem_nil _⟩
  | cons call rest ih =>
      have hsame := same_talk_perform h tool call
      have hbroken : (session.perform tool call).1.broken = some reason :=
        hsame.unchanged.1.trans h
      obtain ⟨hrest, hlog⟩ := ih hbroken
      refine ⟨hsame.trans hrest, List.forall_mem_cons.mpr ⟨?_, hlog⟩⟩
      intro hexecutes
      obtain ⟨problem, hperform, hcause⟩ := perform_of_broken h tool hexecutes
      exact ⟨problem, congrArg Prod.snd hperform, hcause⟩

/-! ## Readiness -/

/-- Executing a command does not change what is loaded. -/
theorem loaded_execute (tool : Tool τ) (session : Session τ) (command : String) :
    (session.execute tool command).1.loaded = session.loaded :=
  congrArg (fun talk => talk.1.loaded) (execute_with_loaded session tool command session.loaded)

/-- Reading files one by one does not by itself change what is loaded. -/
theorem loaded_read_each (tool : Tool τ) (inputs : List String) (session : Session τ) :
    (readEach tool inputs session).1.loaded = session.loaded := by
  induction inputs generalizing session with
  | nil => rfl
  | cons input rest ih =>
      have hfirst := loaded_execute tool session (readCommand input)
      rcases hexecute : session.execute tool (readCommand input) with ⟨middle, _ | _⟩
      · rw [hexecute] at hfirst
        simp only [readEach, hexecute]
        exact hfirst
      · rw [hexecute] at hfirst
        simp only [readEach, hexecute]
        exact (ih middle).trans hfirst

/-- A call changes the mark that a design is loaded only if it succeeds in reading. -/
theorem loaded_perform (tool : Tool τ) (session : Session τ) (call : Call) :
    (session.perform tool call).1.loaded =
      if call.isRead && (session.perform tool call).2.isOk then call.loads
      else session.loaded := by
  cases call with
  | execute command => exact loaded_execute tool session command
  | writeCheckpoint path =>
      have hexecute := loaded_execute tool session (saveCommand path)
      rcases hresult : session.execute tool (saveCommand path) with ⟨after, _ | _⟩
      all_goals
        rw [hresult] at hexecute
        rw [perform, writeCheckpoint, ← saveCommand, hresult]
        exact hexecute
  | readCheckpoint path =>
      have hexecute := loaded_execute tool session (restoreCommand path)
      rcases hresult : session.execute tool (restoreCommand path) with ⟨after, _ | _⟩
      · rw [hresult] at hexecute
        rw [perform, readCheckpoint, ← restoreCommand, hresult]
        exact hexecute
      · rw [perform, readCheckpoint, ← restoreCommand, hresult]
        rfl
  | readInputs inputs =>
      have hread := loaded_read_each tool inputs session
      rcases hresult : readEach tool inputs session with ⟨after, _ | _⟩
      · rw [hresult] at hread
        rw [perform, readInputs, hresult]
        exact hread
      · rw [perform, readInputs, hresult]
        rfl

/-- The first call is the last read exactly if it is a successful read and no later one is. -/
theorem last_read_cons (entry : Call × Ending) (log : List (Call × Ending)) :
    lastRead? (entry :: log) =
      (lastRead? log).or (if entry.1.isRead && entry.2.isOk then some entry.1 else none) := by
  unfold lastRead?
  rw [List.filter_cons]
  split
  · rw [List.getLast?_cons]
    cases (log.filter fun entry => entry.1.isRead && entry.2.isOk).getLast? <;> rfl
  · rw [Option.or_none]

/-- The mark that a design is loaded tells what the last successful read did. -/
theorem loaded_perform_all (tool : Tool τ) (calls : List Call) (session : Session τ) :
    (performAll tool calls session).1.loaded =
      ((lastRead? (performAll tool calls session).2).map Call.loads).getD session.loaded := by
  induction calls generalizing session with
  | nil => rfl
  | cons call rest ih =>
      rw [perform_all_cons, last_read_cons, ih, loaded_perform]
      cases lastRead? (performAll tool rest (session.perform tool call).1).2 with
      | some last => rfl
      | none => cases call.isRead && (session.perform tool call).2.isOk <;> rfl

/-- A session that is not broken is ready if a design is loaded. -/
theorem check_ready_of_intact (h : session.broken = none) :
    session.checkReady = .ok () ↔ session.loaded = true := by
  cases hloaded : session.loaded <;> simp [checkReady, h, hloaded]

/-- Whoever finds a session that is not broken after a call found it so before. -/
theorem intact_of_perform {call : Call} (h : (session.perform tool call).1.broken = none) :
    session.broken = none := by
  rcases Option.eq_none_or_eq_some session.broken with hintact | ⟨reason, hbroken⟩
  · exact hintact
  · exact (same_talk_perform hbroken tool call).unchanged.1.symm.trans h

/-- A call that does not succeed in reading leaves the readiness of the session as it was, unless it
breaks the session. -/
theorem check_ready_perform {call : Call}
    (hcall : (call.isRead && (session.perform tool call).2.isOk) = false)
    (h : (session.perform tool call).1.broken = none) :
    (session.perform tool call).1.checkReady = session.checkReady := by
  have hloaded := loaded_perform tool session call
  rw [hcall] at hloaded
  simp only [checkReady, h, intact_of_perform h, hloaded]
  rfl

/-! ## Commands that fail and sessions that go on -/

/-- What is read in answer to a command is made of texts that do not acknowledge it, one of which
reports an error, and of a text that does. -/
structure AnswersWithError (session : Session τ) (printed : List UInt8) (texts : List String)
    (ack : String) (rest : List (List UInt8)) : Prop where
  stream : streamLines (session.unread ++ printed) = texts.map bytesOf ++ bytesOf ack :: rest
  earlier : ∀ text ∈ texts, classify (marker (session.count + 1)) text ≠ .acknowledgement
  reported : ∃ text ∈ texts, ∃ message, classify (marker (session.count + 1)) text = .error message
  acknowledged : classify (marker (session.count + 1)) ack = .acknowledgement

/-- A command that is acknowledged after an error fails, but the session is not broken. -/
theorem execute_of_answers_with_error (hintact : session.broken = none) {command : String}
    {process : τ} {printed : List UInt8}
    (hreceive : tool.receive session.process (request command (session.count + 1)) =
      .ok (process, printed))
    {texts : List String} {ack : String} {rest : List (List UInt8)}
    (hanswer : session.AnswersWithError printed texts ack rest) :
    ∃ message, firstError? (marker (session.count + 1)) texts = some message ∧
      session.execute tool command =
        ({ session.requested command process with unread := rest.flatten }, .error message) := by
  have hread := read_lines_of_acknowledged hanswer.earlier hanswer.acknowledged none rest
  rw [← hanswer.stream] at hread
  have hsome : (firstError? (marker (session.count + 1)) texts).isSome := by
    obtain ⟨text, htext, message, hmessage⟩ := hanswer.reported
    rw [firstError?, List.findSome?_isSome_iff]
    exact ⟨text, htext, by rw [hmessage]; rfl⟩
  obtain ⟨message, hmessage⟩ := Option.isSome_iff_exists.mp hsome
  refine ⟨message, hmessage, ?_⟩
  rw [execute_of_received hintact hreceive, readStream, hread, hmessage]
  rfl

/-- The exit status of the tool is the only failure of finishing, and it counts only if the session
is not broken. -/
theorem finish_eq_error_iff (hintact : session.broken = none) {problem : SessionProblem} :
    (session.finish tool).2 = .error problem ↔
      tool.exitStatus (tool.offer session.heard "exit\n").1 ≠ 0 ∧
        problem = .exitStatus (tool.exitStatus (tool.offer session.heard "exit\n").1) := by
  obtain ⟨closed, hclosed, hfinish⟩ := finish_of_intact hintact tool
  have hprocess : closed.process = (tool.offer session.heard "exit\n").1 :=
    congrArg Prod.fst hclosed
  rw [hfinish, hprocess]
  by_cases hstatus : tool.exitStatus (tool.offer session.heard "exit\n").1 = 0
  · simp [hstatus]
  · simp [hstatus, eq_comm]

/-- After any calls on a session, it is broken or not.

If it is broken, then whatever calls follow it stays broken for the same reason, nothing is written,
no command is numbered, the reason is reported by every call that would execute a command and by the
check for readiness, and finishing leaves the tool alone and succeeds.

If it is not broken, it is ready exactly if the last successful read loaded a design. Calls that do
not succeed in reading leave that as it is, a command that is acknowledged after an error fails
without breaking the session, and finishing fails exactly if the exit status of the tool is not
zero. -/
theorem session_lifecycle (tool : Tool τ) (process : τ) (calls : List Call) :
    let talk := performAll tool calls (start process)
    let session := talk.1
    (∀ reason, session.broken = some reason → ∀ more,
      let later := performAll tool more session
      later.1.broken = some reason ∧ later.1.heard = session.heard ∧
        later.1.count = session.count ∧ later.1.checkReady = .error reason ∧
        later.1.finish tool = (later.1, .ok ()) ∧
        ∀ entry ∈ later.2, entry.1.executes = true →
          ∃ problem, entry.2 = .error problem ∧ problem.cause? = some reason) ∧
    (session.broken = none →
      (session.checkReady = .ok () ↔
        ∃ call, lastRead? talk.2 = some call ∧ call.loads = true) ∧
      (∀ call, (call.isRead && (session.perform tool call).2.isOk) = false →
        (session.perform tool call).1.broken = none →
        (session.perform tool call).1.checkReady = session.checkReady) ∧
      (∀ command after printed texts ack rest,
        tool.receive session.process (request command (session.count + 1)) =
          .ok (after, printed) →
        session.AnswersWithError printed texts ack rest →
        ∃ message, firstError? (marker (session.count + 1)) texts = some message ∧
          (session.execute tool command).2 = .error message ∧
          (session.execute tool command).1.broken = none) ∧
      ∀ problem, (session.finish tool).2 = .error problem ↔
        tool.exitStatus (tool.offer session.heard "exit\n").1 ≠ 0 ∧
          problem = .exitStatus (tool.exitStatus (tool.offer session.heard "exit\n").1)) := by
  intro talk session
  refine ⟨?_, ?_⟩
  · intro reason hbroken more later
    obtain ⟨hsame, hlog⟩ := perform_all_of_broken hbroken tool more
    obtain ⟨hstays, hheard, hcount⟩ := hsame.unchanged
    have hlater : later.1.broken = some reason := hstays.trans hbroken
    refine ⟨hlater, hheard, hcount, ?_, ?_, hlog⟩
    · simp only [checkReady, hlater]
    · simp only [finish, hlater]
  · intro hintact
    refine ⟨?_, ?_, ?_, fun problem => finish_eq_error_iff hintact⟩
    · rw [check_ready_of_intact hintact, loaded_perform_all]
      cases lastRead? talk.2 with
      | none => simp [start]
      | some call => simp
    · intro call hcall hafter
      exact check_ready_perform hcall hafter
    · intro command after printed texts ack rest hreceive hanswer
      obtain ⟨message, hmessage, hexecute⟩ :=
        execute_of_answers_with_error hintact hreceive hanswer
      rw [hexecute]
      exact ⟨message, hmessage, rfl, hintact⟩

/-- A design is read, a command fails, and reading no inputs unloads the design; then the tool goes
away while a checkpoint is read. -/
theorem session_lifecycle_until_broken :
    let tool := CommandLine.remembering 7
    let process := ([["qlsynth-ack-1"], ["ERROR: ", "qlsynth-ack-2"]].map output, [])
    let calls : List Call := [.readInputs ["top.v"], .execute "stat"]
    let read := (performAll tool (calls.take 1) (start process)).1
    let failed := performAll tool calls (start process)
    let unloaded := performAll tool (calls ++ [.readInputs []]) (start process)
    let broken := (performAll tool (calls ++ [.readCheckpoint "saved.il"]) (start process)).1
    (read.broken = none ∧
        read.AnswersWithError (output ["ERROR: ", "qlsynth-ack-2"]) ["ERROR: \n"]
          "qlsynth-ack-2\n" [] ∧
        ∃ message, (read.execute tool "stat").2 = .error message ∧
          (read.execute tool "stat").1.broken = none) ∧
      (failed.1.broken = none ∧ failed.1.checkReady = .ok () ∧
        (failed.1.finish tool).2 = .error (.exitStatus 7)) ∧
      (unloaded.1.broken = none ∧ unloaded.1.checkReady ≠ .ok ()) ∧
      broken.broken = some "yosys exited unexpectedly" ∧
      ∀ more, (performAll tool more broken).1.checkReady = .error "yosys exited unexpectedly" ∧
        ((performAll tool more broken).1.finish tool).2 = .ok () := by
  intro tool process calls read failed unloaded broken
  have hread : read.broken = none := by decide +kernel
  have hanswer : read.AnswersWithError (output ["ERROR: ", "qlsynth-ack-2"]) ["ERROR: \n"]
      "qlsynth-ack-2\n" [] := by
    refine ⟨?_, ?_, ?_, ?_⟩
    · decide +kernel
    · decide +kernel
    · exact ⟨_, List.mem_singleton_self _, "", by decide +kernel⟩
    · decide +kernel
  have hfailed : failed.1.broken = none := by decide +kernel
  have hlast : lastRead? failed.2 = some (.readInputs ["top.v"]) := by decide +kernel
  have hunloaded : unloaded.1.broken = none := by decide +kernel
  have hlastUnloaded : lastRead? unloaded.2 = some (.readInputs []) := by decide +kernel
  have hbroken : broken.broken = some "yosys exited unexpectedly" := by decide +kernel
  have hprinted : read.process.1.headD [] = output ["ERROR: ", "qlsynth-ack-2"] := by
    decide +kernel
  have hreceive : tool.receive read.process (request "stat" (read.count + 1)) =
      .ok ((read.process.1.tail, read.process.2 ++ [request "stat" (read.count + 1)]),
        output ["ERROR: ", "qlsynth-ack-2"]) := by
    rw [← hprinted]
    rfl
  obtain ⟨-, hgoes⟩ := session_lifecycle tool process (calls.take 1)
  obtain ⟨-, -, hfails, -⟩ := hgoes hread
  obtain ⟨message, -, hmessage, hafter⟩ := hfails "stat" _ _ _ _ _ hreceive hanswer
  obtain ⟨-, hgoes⟩ := session_lifecycle tool process calls
  obtain ⟨hready, -, -, hfinish⟩ := hgoes hfailed
  obtain ⟨-, hgoes⟩ := session_lifecycle tool process (calls ++ [.readInputs []])
  obtain ⟨hunready, -, -, -⟩ := hgoes hunloaded
  obtain ⟨hends, -⟩ := session_lifecycle tool process (calls ++ [.readCheckpoint "saved.il"])
  refine ⟨⟨hread, hanswer, message, hmessage, hafter⟩,
    ⟨hfailed, hready.mpr ⟨_, hlast, rfl⟩, (hfinish _).mpr ⟨by decide, rfl⟩⟩, ⟨hunloaded, ?_⟩,
    hbroken, ?_⟩
  · intro hok
    obtain ⟨call, hcall, hloads⟩ := hunready.mp hok
    cases hlastUnloaded.symm.trans hcall
    cases hloads
  · intro more
    obtain ⟨-, -, -, hcheck, hfinish, -⟩ := hends _ hbroken more
    exact ⟨hcheck, congrArg Prod.snd hfinish⟩

end StagedSynthesis.Session
