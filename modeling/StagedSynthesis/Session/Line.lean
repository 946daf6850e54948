import StagedSynthesis.Text.Blank
import StagedSynthesis.Text.Joined

/-!
# Lines of tool output

What one line of output means while a command is being carried out. The tool prints a prompt
without a line feed, so any number of prompts may stand before the text that matters. After them a
line acknowledges the command if it is the command's marker, and it reports an error if it starts
with `ERROR:`.

A line includes the line feed that ends it, and the message of an error must reach the end of its
line without passing one. A report that is followed by a line feed therefore counts only if it has
no message.
-/

namespace StagedSynthesis.Session

/-- The meaning of a line of output. -/
inductive LineMeaning where
  | acknowledgement
  | error (message : String)
  | other
  deriving DecidableEq, Repr

/-- The marker by which the tool acknowledges the command with this number. -/
def marker (number : Nat) : String :=
  "qlsynth-ack-" ++ Text.decimal number

/-- The text after one prompt, if the text starts with one. A prompt may name a module between
square brackets. -/
def afterPrompt? : List Char → Option (List Char)
  | 'y' :: 'o' :: 's' :: 'y' :: 's' :: '>' :: ' ' :: rest => some rest
  | 'y' :: 'o' :: 's' :: 'y' :: 's' :: ' ' :: '[' :: rest =>
      match rest.dropWhile (· ≠ ']') with
      | ']' :: '>' :: ' ' :: rest => some rest
      | _ => none
  | _ => none

/-- A prompt is not empty. -/
theorem length_lt_of_after_prompt {text rest : List Char} (found : afterPrompt? text = some rest) :
    rest.length < text.length := by
  revert found
  fun_cases afterPrompt? text with
  | case1 after =>
      intro found
      obtain rfl := Option.some.inj found
      simp only [List.length_cons]
      omega
  | case2 inner after dropped =>
      intro found
      obtain rfl := Option.some.inj found
      have shorter := (List.dropWhile_sublist (p := (· ≠ ']')) (l := inner)).length_le
      rw [dropped] at shorter
      simp only [List.length_cons] at shorter ⊢
      omega
  | case3 inner unfinished =>
      intro found
      cases found
  | case4 other unprompted unnamed =>
      intro found
      cases found

/-- The text after all the prompts it starts with. -/
def withoutPrompts (text : List Char) : List Char :=
  match _found : afterPrompt? text with
  | some rest => withoutPrompts rest
  | none => text
termination_by text.length
decreasing_by exact length_lt_of_after_prompt (by assumption)

/-- The message of an error report: what follows `ERROR:`, trimmed, if no line feed is left after
the blanks that lead it. -/
def errorMessage? (text : List Char) : Option (List Char) :=
  match Text.trimStart text with
  | 'E' :: 'R' :: 'R' :: 'O' :: 'R' :: ':' :: rest =>
      let message := Text.trimStart rest
      if message.contains '\n' then none else some (Text.trimEnd message)
  | _ => none

/-- The meaning of a line while the given marker is awaited. -/
def classify (awaited : String) (line : String) : LineMeaning :=
  let text := withoutPrompts line.toList
  if String.ofList (Text.trimEnd text) = awaited then .acknowledgement
  else
    match errorMessage? text with
    | some message => .error (String.ofList message)
    | none => .other

end StagedSynthesis.Session
