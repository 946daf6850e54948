/-!
# Joined texts

Texts put together from parts, and taken apart again: parts with a separator between neighbours, a
command with its arguments, numbers, and lines that each end in a line feed.
-/

namespace StagedSynthesis.Text

/-- The parts in order with the separator between neighbours. -/
def joined (separator : String) : List String → String
  | [] => ""
  | first :: rest => rest.foldl (fun text part => text ++ separator ++ part) first

/-- The first of several parts stands with a separator before the others joined. -/
theorem joined_cons_cons (separator first second : String) (rest : List String) :
    joined separator (first :: second :: rest) =
      first ++ separator ++ joined separator (second :: rest) := by
  have hfold (front start : String) :
      rest.foldl (fun text part => text ++ separator ++ part) (front ++ start) =
        front ++ rest.foldl (fun text part => text ++ separator ++ part) start := by
    induction rest generalizing start with
    | nil => rfl
    | cons part others ih =>
        have hnext := ih (start ++ separator ++ part)
        rwa [← String.append_assoc, ← String.append_assoc] at hnext
  exact hfold (first ++ separator) second

/-- An operation name followed by its arguments, each after one space. -/
def commandLine (name : String) (arguments : List String) : String :=
  joined " " (name :: arguments)

/-- The last argument of a command stands behind a space. -/
theorem command_line_concat (name last : String) (front : List String) :
    commandLine name (front ++ [last]) = commandLine name front ++ " " ++ last := by
  simp only [commandLine, joined, List.foldl_append, List.foldl_cons, List.foldl_nil]

/-- The operation that a command calls: the text before its first space. -/
def operation (command : String) : String :=
  String.ofList (command.toList.takeWhile (· ≠ ' '))

/-- What a command hands to its operation: the text after its first space. -/
def operands (command : String) : String :=
  String.ofList ((command.toList.dropWhile (· ≠ ' ')).drop 1)

/-- The parts of a text between the places of a separator. -/
def pieces (separator : Char) (text : String) : List String :=
  (text.toList.splitOn separator).map String.ofList

/-- A text without the separator is one part. -/
theorem pieces_eq_singleton {separator : Char} {text : String} (h : separator ∉ text.toList) :
    pieces separator text = [text] := by
  rw [pieces, List.splitOn_eq_singleton h, List.map_singleton, String.ofList_toList]

/-- A number in decimal digits. -/
def decimal (number : Nat) : String :=
  number.repr

/-- The digits of a number determine it. -/
theorem decimal_injective : Function.Injective decimal := by
  intro first second h
  rw [decimal, decimal, Nat.repr_eq_ofList_toDigits, Nat.repr_eq_ofList_toDigits,
    String.ofList_inj] at h
  have hread := congrArg (Nat.ofDigitChars 10 · 0) h
  simpa (disch := decide) only [Nat.ofDigitChars_toDigits] using hread

/-- The lines in order, each ended by a line feed. -/
def lines (parts : List String) : String :=
  parts.foldl (fun text part => text ++ part ++ "\n") ""

end StagedSynthesis.Text
