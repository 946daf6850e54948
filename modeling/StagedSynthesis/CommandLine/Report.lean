import StagedSynthesis.Text.Joined

/-!
# Error reports

The text in which the program reports why it failed: a line with the program's name, the command
and the message, and under it a line for every detail with the values aligned.
-/

namespace StagedSynthesis.CommandLine

/-- What went wrong: the command that met the problem, a message, and details by name. -/
structure Report where
  command : Option String := none
  message : String
  details : List (String × String) := []
  deriving DecidableEq, Repr

/-- The control sequence that turns on bold red text. -/
def emphasisStart : List Char :=
  ['\x1b', '[', '1', ';', '3', '1', 'm']

/-- The control sequence that turns all emphasis off. -/
def emphasisEnd : List Char :=
  ['\x1b', '[', '0', 'm']

/-- The characters with emphasis turned on again wherever they turn it off. -/
def keepEmphasis : List Char → List Char
  | [] => []
  | '\x1b' :: '[' :: '0' :: 'm' :: rest => emphasisEnd ++ emphasisStart ++ keepEmphasis rest
  | c :: rest => c :: keepEmphasis rest

/-- A text in bold red, where colours are wanted. -/
def emphasized (colored : Bool) (text : String) : String :=
  if colored then
    String.ofList (emphasisStart ++ keepEmphasis text.toList ++ emphasisEnd)
  else
    text

/-- A text filled up with spaces to a width. -/
def padded (width : Nat) (text : String) : String :=
  text ++ String.ofList (List.replicate (width - text.length) ' ')

/-- The text of a report. -/
def Report.text (colored : Bool) (report : Report) : String :=
  let width := (report.details.map fun detail => detail.1.length + 1).foldl max 0
  let headline :=
    "qlsynth-driver: " ++
      (match report.command with
        | some command => command ++ ": "
        | none => "") ++
      emphasized colored report.message
  Text.lines (headline :: report.details.map fun detail =>
    "  " ++ padded width (detail.1 ++ ":") ++ " " ++ detail.2)

end StagedSynthesis.CommandLine
