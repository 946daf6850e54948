import StagedSynthesis.ScriptFile
import StagedSynthesis.Session.Stream

/-!
# Tool sessions

A session talks to one running synthesis tool that holds the design between commands. Commands go
to the tool one at a time, and each is followed by a request to print a numbered marker. What the
tool prints up to that marker belongs to the command, and an error report in it makes the command
fail. A tool that stops answering breaks the session, and nothing more can be run in it.

A tool is described by what it does with the text written to it. A reader who has consumed all that
a tool prints in answer is at the end of its output.
-/

namespace StagedSynthesis

/-- How a running tool with states of type `τ` behaves. -/
structure Tool (τ : Type) where
  /-- Take in a text. The answer is the state afterwards and the bytes printed, or why the text
  could not be written. -/
  receive : τ → String → Except String (τ × List UInt8)
  /-- The exit status once the input is closed. -/
  exitStatus : τ → Nat

/-- The state of a conversation with a tool. -/
structure Session (τ : Type) where
  /-- The state of the tool. -/
  process : τ
  /-- What the tool has printed and nobody has read. -/
  unread : List UInt8 := []
  /-- The texts written to the tool, in order. -/
  written : List String := []
  /-- How many commands have been numbered. -/
  count : Nat := 0
  /-- Whether a design has been read. -/
  loaded : Bool := false
  /-- Why nothing more can be run, once that is so. -/
  broken : Option String := none

/-- Why an operation on a session failed. -/
inductive SessionProblem where
  | readingInput (input cause : String)
  | readingCheckpoint (path cause : String)
  | writingCheckpoint (path cause : String)
  | exitStatus (status : Nat)
  deriving DecidableEq, Repr

namespace SessionProblem

/-- What was being done, or all there is to say. -/
def headline : SessionProblem → String
  | .readingInput input _ => "reading input " ++ input
  | .readingCheckpoint path _ => "reading checkpoint " ++ path
  | .writingCheckpoint path _ => "writing checkpoint " ++ path
  | .exitStatus status => "yosys exited with status exit status: " ++ Text.decimal status

/-- The headline followed by its cause. -/
def message (problem : SessionProblem) : String :=
  match problem with
  | .readingInput _ cause | .readingCheckpoint _ cause | .writingCheckpoint _ cause =>
      problem.headline ++ ": " ++ cause
  | .exitStatus _ => problem.headline

end SessionProblem

namespace Session

variable {τ : Type}

/-- A session with a tool that has just been started. -/
def start (process : τ) : Session τ :=
  { process := process }

/-- Break the session for a reason, which is also the reason why the command failed. -/
def breakOff (session : Session τ) (reason : String) : Session τ × Except String Unit :=
  ({ session with broken := some reason }, .error reason)

/-- The text that sends a command and asks for its marker. -/
def request (command : String) (number : Nat) : String :=
  command ++ "\nlog " ++ marker number ++ "\n"

/-- Write a text to the tool and keep what it prints for reading. -/
def write (tool : Tool τ) (session : Session τ) (text : String) : Except String (Session τ) :=
  (tool.receive session.process text).map fun answer =>
    { session with
      process := answer.1
      unread := session.unread ++ answer.2
      written := session.written ++ [text] }

/-- Run one command and wait until it is finished. -/
def execute (tool : Tool τ) (session : Session τ) (command : String) :
    Session τ × Except String Unit :=
  match session.broken with
  | some reason => (session, .error reason)
  | none =>
      let number := session.count + 1
      let numbered := { session with count := number }
      match numbered.write tool (request command number) with
      | .error cause => numbered.breakOff ("cannot send command to yosys: " ++ cause)
      | .ok sent =>
          match readStream (marker number) sent.unread with
          | .acknowledged none unread => ({ sent with unread := unread }, .ok ())
          | .acknowledged (some message) unread =>
              ({ sent with unread := unread }, .error message)
          | .undecodable =>
              { sent with unread := [] }.breakOff
                "reading yosys output: stream did not contain valid UTF-8"
          | .ended seen =>
              { sent with unread := [] }.breakOff (seen.getD "yosys exited unexpectedly")

/-- Execute the commands that read the inputs, up to the first that fails. -/
def readEach (tool : Tool τ) : List String → Session τ → Session τ × Except SessionProblem Unit
  | [], session => (session, .ok ())
  | input :: rest, session =>
      match session.execute tool (readCommand input) with
      | (after, .error cause) => (after, .error (.readingInput input cause))
      | (after, .ok ()) => readEach tool rest after

/-- Read source files into the design. A design is loaded afterwards unless the list was empty. -/
def readInputs (tool : Tool τ) (session : Session τ) (inputs : List String) :
    Session τ × Except SessionProblem Unit :=
  match readEach tool inputs session with
  | (after, .error problem) => (after, .error problem)
  | (after, .ok ()) => ({ after with loaded := !inputs.isEmpty }, .ok ())

/-- Read a design that was saved before. -/
def readCheckpoint (tool : Tool τ) (session : Session τ) (path : String) :
    Session τ × Except SessionProblem Unit :=
  match session.execute tool (Text.commandLine "read_rtlil" [Text.fileArgument path]) with
  | (after, .error cause) => (after, .error (.readingCheckpoint path cause))
  | (after, .ok ()) => ({ after with loaded := true }, .ok ())

/-- Save the design. -/
def writeCheckpoint (tool : Tool τ) (session : Session τ) (path : String) :
    Session τ × Except SessionProblem Unit :=
  match session.execute tool (Text.commandLine "write_rtlil" [Text.fileArgument path]) with
  | (after, .error cause) => (after, .error (.writingCheckpoint path cause))
  | (after, .ok ()) => (after, .ok ())

/-- Ask the tool to exit and wait for it. A broken session is not told to exit, and its exit
status is not a problem of its own. -/
def finish (tool : Tool τ) (session : Session τ) : Session τ × Except SessionProblem Unit :=
  match session.broken with
  | some _ => (session, .ok ())
  | none =>
      let closed := match session.write tool "exit\n" with
        | .ok sent => sent
        | .error _ => session
      let status := tool.exitStatus closed.process
      (closed, if status = 0 then .ok () else .error (.exitStatus status))

/-- A script can start once a design has been read and while the session is not broken. -/
def checkReady (session : Session τ) : Except String Unit :=
  match session.broken with
  | some reason => .error reason
  | none => if session.loaded then .ok () else .error "no input files or checkpoint were read"

/-- The back end that sends every command of a script to the tool. -/
def backend (tool : Tool τ) : Backend (Session τ) Unit where
  checkReady := checkReady
  invoke session invoker invocation :=
    let (after, result) := session.execute tool invocation.command
    { design := after, invoker := invoker, result := result }

end Session

end StagedSynthesis
