import StagedSynthesis.Proofs.Session.Stream

/-!
# Sending commands

What a session puts to its tool. A text that is offered to a tool is taken in or refused, and
`Tool.offerAll` follows a tool through texts that are offered in turn. `Sent` says that between two
states of a session the tool was offered the requests for some commands, numbered in order, and
nothing else. The relation `Sends` describes a session that sends commands up to and including the
first that fails; by `Sends.sent` these are exactly what its tool is offered.
-/

namespace StagedSynthesis

variable {τ : Type}

namespace Tool

/-- A tool and the texts it has taken in, after one more text was offered to it. A text that it
refuses leaves no mark. -/
def offer (tool : Tool τ) (heard : τ × List String) (text : String) : τ × List String :=
  match tool.receive heard.1 text with
  | .ok answer => (answer.1, heard.2 ++ [text])
  | .error _ => heard

/-- A tool and the texts it has taken in, after some texts were offered to it in turn. -/
def offerAll (tool : Tool τ) (heard : τ × List String) (texts : List String) : τ × List String :=
  texts.foldl tool.offer heard

/-- Texts one after the other are offered one after the other. -/
theorem offer_all_append (tool : Tool τ) (heard : τ × List String) (first second : List String) :
    tool.offerAll heard (first ++ second) = tool.offerAll (tool.offerAll heard first) second :=
  List.foldl_append

end Tool

namespace Session

/-- The state of the tool and the texts it has taken in. -/
def heard (session : Session τ) : τ × List String :=
  (session.process, session.written)

/-- The text that puts a command to a tool: the command on a line of its own, and behind it a line
that asks for the marker with a number. -/
def asking (command : String) (number : Nat) : String :=
  command ++ "\nlog qlsynth-ack-" ++ Text.decimal number ++ "\n"

/-- The texts that put some commands to a tool, numbered on from a count. -/
def requests (count : Nat) : List String → List String
  | [] => []
  | command :: rest => asking command (count + 1) :: requests (count + 1) rest

/-- A session puts a command to its tool in this text. -/
theorem request_eq_asking (command : String) (number : Nat) :
    request command number = asking command number := by
  have hmark : "\nlog qlsynth-ack-" = "\nlog " ++ "qlsynth-ack-" := rfl
  simp only [request, marker, asking, hmark, String.append_assoc]

/-- The numbers run on from one list of commands to the next. -/
theorem requests_append (count : Nat) (first second : List String) :
    requests count (first ++ second) =
      requests count first ++ requests (count + first.length) second := by
  induction first generalizing count with
  | nil => rfl
  | cons command rest ih =>
      rw [List.cons_append, requests, requests, ih, List.length_cons, List.cons_append,
        Nat.add_right_comm, Nat.add_assoc]

/-- Commands and the lines that ask for their markers, numbered on from a count. -/
def dialogue (count : Nat) : List String → List String
  | [] => []
  | command :: rest => command :: ("log " ++ marker (count + 1)) :: dialogue (count + 1) rest

/-- A command and the line that asks for its marker are two lines. -/
theorem asking_eq (command : String) (number : Nat) :
    asking command number = ended command ++ ended ("log " ++ marker number) := by
  have hsplit : "\nlog qlsynth-ack-" = "\n" ++ "log " ++ "qlsynth-ack-" := rfl
  simp only [asking, ended, marker, hsplit, String.append_assoc]

/-- The bytes of two texts stand one after the other. -/
theorem bytes_of_append (first second : String) :
    bytesOf (first ++ second) = bytesOf first ++ bytesOf second := by
  rw [bytes_of_eq, bytes_of_eq, bytes_of_eq, String.toList_append, List.flatMap_append]

/-- The requests are the commands, each on a line of its own with the line that asks for its marker
behind it. -/
theorem bytes_of_requests (count : Nat) (commands : List String) :
    (requests count commands).flatMap bytesOf = output (dialogue count commands) := by
  induction commands generalizing count with
  | nil => rfl
  | cons command rest ih =>
      rw [requests, List.flatMap_cons, ih, asking_eq, bytes_of_append, List.append_assoc]
      rfl

/-- Between two states of a session, its tool was offered the requests for some commands, and each
of them was given the next number. -/
structure Sent (tool : Tool τ) (before : Session τ) (commands : List String) (after : Session τ) :
    Prop where
  heard : after.heard = tool.offerAll before.heard (requests before.count commands)
  count : after.count = before.count + commands.length

/-- A session that stays as it is sends nothing. -/
theorem Sent.nothing (tool : Tool τ) (session : Session τ) : Sent tool session [] session :=
  ⟨rfl, rfl⟩

/-- What a session sends in two parts is sent one part after the other. -/
theorem Sent.append {tool : Tool τ} {before middle after : Session τ} {first second : List String}
    (hfirst : Sent tool before first middle) (hsecond : Sent tool middle second after) :
    Sent tool before (first ++ second) after where
  heard := by
    rw [hsecond.heard, hfirst.heard, hfirst.count, requests_append, Tool.offer_all_append]
  count := by
    rw [hsecond.count, hfirst.count, List.length_append]
    omega

/-! ## One command -/

/-- A session that is not broken sends a command, however it ends. -/
theorem sent_execute {session : Session τ} (hintact : session.broken = none) (tool : Tool τ)
    (command : String) : Sent tool session [command] (session.execute tool command).1 := by
  have hrequests : requests session.count [command] = [request command (session.count + 1)] := by
    rw [request_eq_asking, requests, requests]
  cases hreceive : tool.receive session.process (request command (session.count + 1)) with
  | error cause =>
      have hoffer : tool.offerAll session.heard (requests session.count [command]) =
          session.heard := by
        rw [hrequests]
        simp only [Tool.offerAll, List.foldl_cons, List.foldl_nil, Tool.offer, heard, hreceive]
      rw [execute_of_refused hintact hreceive]
      exact ⟨hoffer.symm, rfl⟩
  | ok answer =>
      have hoffer : tool.offerAll session.heard (requests session.count [command]) =
          (answer.1, session.written ++ [request command (session.count + 1)]) := by
        rw [hrequests]
        simp only [Tool.offerAll, List.foldl_cons, List.foldl_nil, Tool.offer, heard, hreceive]
      rw [execute_of_received hintact hreceive]
      cases readStream (marker (session.count + 1)) (session.unread ++ answer.2) with
      | acknowledged | undecodable | ended => exact ⟨hoffer.symm, rfl⟩

/-- A command succeeds if the session is not broken, the tool takes its request in, and the answer
acknowledges it without an error. -/
theorem execute_eq_ok_iff {tool : Tool τ} {session after : Session τ} {command : String} :
    session.execute tool command = (after, .ok ()) ↔
      session.broken = none ∧ ∃ process printed left,
        tool.receive session.process (request command (session.count + 1)) =
          .ok (process, printed) ∧
        readStream (marker (session.count + 1)) (session.unread ++ printed) =
          .acknowledged none left ∧
        after = { session.requested command process with unread := left } := by
  constructor
  · intro h
    rcases Option.eq_none_or_eq_some session.broken with hintact | ⟨reason, hbroken⟩
    · refine ⟨hintact, ?_⟩
      cases hreceive : tool.receive session.process (request command (session.count + 1)) with
      | error cause =>
          rw [execute_of_refused hintact hreceive] at h
          cases h
      | ok answer =>
          rw [execute_of_received hintact hreceive] at h
          cases hread : readStream (marker (session.count + 1)) (session.unread ++ answer.2) with
          | acknowledged error left =>
              rw [hread] at h
              obtain ⟨hafter, hverdict⟩ := Prod.ext_iff.mp h
              obtain rfl := verdict_eq_ok_iff.mp hverdict
              exact ⟨answer.1, answer.2, left, rfl, hread, hafter.symm⟩
          | undecodable | ended =>
              rw [hread] at h
              cases h
    · simp only [execute, hbroken] at h
      cases h
  · rintro ⟨hintact, process, printed, left, hreceive, hread, rfl⟩
    rw [execute_of_received hintact hreceive, hread]
    rfl

/-- A command that succeeds found a session that was not broken, and does not break it. -/
theorem intact_of_execute_ok {tool : Tool τ} {session after : Session τ} {command : String}
    (h : session.execute tool command = (after, .ok ())) :
    session.broken = none ∧ after.broken = none := by
  obtain ⟨hintact, _, _, _, -, -, rfl⟩ := execute_eq_ok_iff.mp h
  exact ⟨hintact, hintact⟩

/-- Whether a design was read makes no difference to a command. -/
theorem execute_with_loaded (session : Session τ) (tool : Tool τ) (command : String)
    (loaded : Bool) :
    { session with loaded := loaded }.execute tool command =
      ({ (session.execute tool command).1 with loaded := loaded },
        (session.execute tool command).2) := by
  let marked : Session τ := { session with loaded := loaded }
  show marked.execute tool command = _
  rcases Option.eq_none_or_eq_some session.broken with hbroken | ⟨reason, hbroken⟩
  · have hmarked : marked.broken = none := hbroken
    cases hreceive : tool.receive session.process (request command (session.count + 1)) with
    | error cause =>
        rw [execute_of_refused hbroken hreceive, execute_of_refused hmarked hreceive]
        rfl
    | ok answer =>
        rw [execute_of_received hbroken hreceive, execute_of_received hmarked hreceive]
        show concluded _ (readStream (marker (session.count + 1)) (session.unread ++ answer.2)) = _
        cases readStream (marker (session.count + 1)) (session.unread ++ answer.2) with
        | acknowledged | undecodable | ended => rfl
  · simp only [execute, marked, hbroken]

/-! ## Commands up to the first that fails -/

/-- A session sends commands of a plan in turn, up to and including the first that fails. A command
is sent only by a session that is not broken. -/
inductive Sends (tool : Tool τ) :
    Session τ → (plan commands : List String) → Session τ → Except String Unit → Prop
  | done (session : Session τ) : Sends tool session [] [] session (.ok ())
  | failed {session after : Session τ} {command cause : String} (rest : List String)
      (hintact : session.broken = none)
      (hfails : session.execute tool command = (after, .error cause)) :
      Sends tool session (command :: rest) [command] after (.error cause)
  | next {session middle after : Session τ} {command : String} {rest commands : List String}
      {result : Except String Unit} (hsucceeds : session.execute tool command = (middle, .ok ()))
      (hrest : Sends tool middle rest commands after result) :
      Sends tool session (command :: rest) (command :: commands) after result

namespace Sends

variable {tool : Tool τ} {before middle after : Session τ} {plan commands : List String}
  {result : Except String Unit}

/-- The tool is offered the requests for the commands that are sent, and no others. -/
theorem sent (h : Sends tool before plan commands after result) :
    Sent tool before commands after := by
  induction h with
  | done session => exact .nothing tool session
  | @failed session after command cause rest hintact hfails =>
      have hsent := sent_execute hintact tool command
      rwa [hfails] at hsent
  | @next session middle after command rest commands result hsucceeds hrest ih =>
      have hsent := sent_execute (intact_of_execute_ok hsucceeds).1 tool command
      rw [hsucceeds] at hsent
      exact hsent.append ih

/-- If no command fails, the session stays unbroken. -/
theorem intact (h : Sends tool before plan commands after result) (hok : result = .ok ())
    (hintact : before.broken = none) : after.broken = none := by
  induction h with
  | done session => exact hintact
  | failed rest hbefore hfails => cases hok
  | next hsucceeds hrest ih => exact ih hok (intact_of_execute_ok hsucceeds).2

/-- If a command fails, it is the last that is sent: the commands before it succeed, and what is
planned behind it plays no part. -/
theorem last_failed (h : Sends tool before plan commands after result) {cause : String}
    (herror : result = .error cause) :
    ∃ earlier failing rest reached, plan = earlier ++ failing :: rest ∧
      commands = earlier ++ [failing] ∧ Sends tool before earlier earlier reached (.ok ()) ∧
      Sends tool before commands commands after result := by
  induction h with
  | done session => cases herror
  | @failed session after command cause rest hintact hfails =>
      exact ⟨[], command, rest, session, rfl, rfl, .done session, .failed [] hintact hfails⟩
  | @next session middle after command rest commands result hsucceeds hrest ih =>
      obtain ⟨earlier, failing, others, reached, rfl, rfl, hearlier, hcommands⟩ := ih herror
      exact ⟨command :: earlier, failing, others, reached, rfl, rfl, .next hsucceeds hearlier,
        .next hsucceeds hcommands⟩

/-- A plan that is carried out can be followed by another. -/
theorem append (h : Sends tool before plan commands middle result) (hok : result = .ok ())
    {nextPlan nextCommands : List String} {nextResult : Except String Unit}
    (hnext : Sends tool middle nextPlan nextCommands after nextResult) :
    Sends tool before (plan ++ nextPlan) (commands ++ nextCommands) after nextResult := by
  induction h with
  | done session => exact hnext
  | failed rest hintact hfails => cases hok
  | next hsucceeds hrest ih => exact .next hsucceeds (ih hok hnext)

/-- What is planned behind a command that fails is never sent. -/
theorem append_plan (h : Sends tool before plan commands after result) {cause : String}
    (herror : result = .error cause) (more : List String) :
    Sends tool before (plan ++ more) commands after result := by
  induction h with
  | done session => cases herror
  | failed rest hintact hfails => exact .failed (rest ++ more) hintact hfails
  | next hsucceeds hrest ih => exact .next hsucceeds (ih herror)

/-- The session, the tool and the plan determine what is sent and how it ends. -/
theorem unique (h : Sends tool before plan commands after result) {otherCommands : List String}
    {otherAfter : Session τ} {otherResult : Except String Unit}
    (hother : Sends tool before plan otherCommands otherAfter otherResult) :
    commands = otherCommands ∧ after = otherAfter ∧ result = otherResult := by
  induction h generalizing otherCommands with
  | done session =>
      cases hother
      exact ⟨rfl, rfl, rfl⟩
  | @failed session after command cause rest hintact hfails =>
      cases hother with
      | failed _ _ hotherFails =>
          cases hfails.symm.trans hotherFails
          exact ⟨rfl, rfl, rfl⟩
      | next hotherSucceeds _ => cases hfails.symm.trans hotherSucceeds
  | @next session middle after command rest commands result hsucceeds hrest ih =>
      cases hother with
      | failed _ _ hotherFails => cases hsucceeds.symm.trans hotherFails
      | next hotherSucceeds hotherRest =>
          cases hsucceeds.symm.trans hotherSucceeds
          obtain ⟨rfl, rfl, rfl⟩ := ih hotherRest
          exact ⟨rfl, rfl, rfl⟩

/-- Whether a design was read makes no difference to what is sent. -/
theorem with_loaded (h : Sends tool before plan commands after result) (loaded : Bool) :
    Sends tool { before with loaded := loaded } plan commands { after with loaded := loaded }
      result := by
  induction h with
  | done session => exact .done _
  | @failed session after command cause rest hintact hfails =>
      refine .failed rest hintact ?_
      rw [execute_with_loaded, hfails]
  | @next session middle after command rest commands result hsucceeds hrest ih =>
      refine .next ?_ ih
      rw [execute_with_loaded, hsucceeds]

end Sends

end Session

end StagedSynthesis
