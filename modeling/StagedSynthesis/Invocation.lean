import StagedSynthesis.Guard

/-!
# Invocations

One command of a script together with the condition under which it runs.
-/

namespace StagedSynthesis

/-- A command and the condition under which it runs. -/
structure Invocation where
  command : String
  guard : Guard

namespace Invocation

/-- The operation that the command calls: the text before its first space. -/
def name (invocation : Invocation) : String :=
  Text.operation invocation.command

/-- The arguments of the operation: the text after its first space. -/
def arguments (invocation : Invocation) : String :=
  Text.operands invocation.command

/-- The condition as a listing shows it. A command that always runs has none. -/
def annotation (invocation : Invocation) : Option String :=
  if invocation.guard.isAlways then none else some invocation.guard.text

end Invocation

end StagedSynthesis
