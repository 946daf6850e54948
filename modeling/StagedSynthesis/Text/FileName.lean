import StagedSynthesis.Text.Blank

/-!
# File names as arguments

A file name is one argument of a command. It is put between double quotes when it has a blank in
it, because blanks separate arguments.
-/

namespace StagedSynthesis.Text

/-- The file name as one argument of a command. -/
def fileArgument (path : String) : String :=
  if path.toList.any isBlank then "\"" ++ path ++ "\"" else path

end StagedSynthesis.Text
