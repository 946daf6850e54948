import StagedSynthesis.Session

/-!
# Rehearsed tools

A tool whose every answer is fixed beforehand, for trying out a conversation without the real one.
It collects lines until it is asked for a marker, takes the collected lines as one command, and
answers with the first cue that fits the command.
-/

namespace StagedSynthesis

/-- A planned answer and the command it is meant for. -/
structure Cue where
  /-- The number of the command, counted from one, if only that one is meant. -/
  number : Option Nat := none
  /-- The text of the command, if only that one is meant. -/
  command : Option String := none
  /-- The text to print, in which every `{M}` stands for the current marker. -/
  output : String := ""
  /-- Bytes to print after the text. -/
  bytes : List UInt8 := []
  /-- The status with which the tool ends instead of acknowledging. -/
  exit : Option Nat := none

/-- The planned answers of a tool, and the status with which it ends when it is told to exit. -/
structure Rehearsal where
  cues : List Cue := []
  exitStatus : Nat := 0

/-- How far a rehearsed tool has come. -/
structure Performance where
  /-- The lines since the last marker, latest first. -/
  collected : List String := []
  /-- How many commands have been answered. -/
  answered : Nat := 0
  /-- All lines but the requests for markers, in order. -/
  received : Array String := #[]
  /-- The last line of all. -/
  lastLine : String := ""
  /-- The status with which the tool has ended, once it has. -/
  ended : Option Nat := none

namespace Rehearsal

/-- The text with every `{M}` replaced by the marker. -/
def fill (marker : List Char) : List Char → List Char
  | [] => []
  | '\x7b' :: 'M' :: '\x7d' :: rest => marker ++ fill marker rest
  | c :: rest => c :: fill marker rest

/-- The marker that a line asks for, if it asks for one. -/
def requestedMarker? (line : String) : Option String :=
  match line.toList with
  | 'l' :: 'o' :: 'g' :: ' ' :: asked =>
      let lead := (Session.marker 0).toList.dropLast
      let digits := asked.drop lead.length
      if asked.take lead.length = lead ∧ digits ≠ [] ∧ digits.all Char.isDigit then
        some (String.ofList asked)
      else
        none
  | _ => none

/-- The first cue for a command. -/
def cueFor? (rehearsal : Rehearsal) (number : Nat) (command : String) : Option Cue :=
  rehearsal.cues.find? fun cue =>
    (cue.number.isNone || cue.number == some number) &&
      (cue.command.isNone || cue.command == some command)

/-- Answer a command. The marker is printed once, and once more if the text before it was not
ended by a line feed. -/
def answer (rehearsal : Rehearsal) (performance : Performance) (marker : String) :
    Performance × List UInt8 :=
  let number := performance.answered + 1
  let command := Text.joined "\n" performance.collected.reverse
  let performance := { performance with collected := [], answered := number }
  let acknowledgement := (marker ++ "\n").toUTF8.toList
  match rehearsal.cueFor? number command with
  | none => (performance, acknowledgement)
  | some cue =>
      let printed :=
        (String.ofList (fill marker.toList cue.output.toList)).toUTF8.toList ++ cue.bytes
      match cue.exit with
      | some status => ({ performance with ended := some status }, printed)
      | none =>
          if printed = [] ∨ printed.getLast? = some 10 then
            (performance, printed ++ acknowledgement)
          else
            (performance, printed ++ acknowledgement ++ acknowledgement)

/-- Take in one line. A tool that has ended takes in nothing. -/
def receiveLine (rehearsal : Rehearsal) (performance : Performance) (line : String) :
    Performance × List UInt8 :=
  if performance.ended.isSome then (performance, [])
  else
    match requestedMarker? line with
    | some marker => rehearsal.answer { performance with lastLine := line } marker
    | none =>
        ({ performance with
            collected := line :: performance.collected
            received := performance.received.push line
            lastLine := line }, [])

/-- Take in lines in order. -/
def receiveLines (rehearsal : Rehearsal) : List String → Performance → Performance × List UInt8
  | [], performance => (performance, [])
  | line :: rest, performance =>
      let (after, printed) := rehearsal.receiveLine performance line
      let (last, others) := receiveLines rehearsal rest after
      (last, printed ++ others)

/-- The tool that performs a rehearsal. Statuses are told apart modulo 256. -/
def tool (rehearsal : Rehearsal) : Tool Performance where
  receive performance text := .ok (rehearsal.receiveLines (text.splitOn "\n").dropLast performance)
  exitStatus performance :=
    match performance.ended with
    | some status => status % 256
    | none => if performance.lastLine = "exit" then rehearsal.exitStatus % 256 else 0

end Rehearsal

end StagedSynthesis
