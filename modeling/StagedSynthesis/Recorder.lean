import StagedSynthesis.Executor

/-!
# Recording back end

A design in memory that remembers what was applied to it, and two invokers for it. A `Recorder`
applies commands and can be told to fail at a chosen call. A `Censor` applies the arguments of
commands and refuses one command or all calls of one operation. With them a script can be run
without any tool.
-/

namespace StagedSynthesis

/-- A design that remembers the texts applied to it. -/
structure RecordedDesign where
  loaded : Bool := false
  /-- The applied texts in order. -/
  applied : Array String := #[]

namespace RecordedDesign

/-- A recorded design is ready once it has been read. -/
def checkReady (design : RecordedDesign) : Except String Unit :=
  if design.loaded then .ok () else .error "no input design has been read"

/-- The design after a text has been applied to it. -/
def apply (design : RecordedDesign) (text : String) : RecordedDesign :=
  { design with applied := design.applied.push text }

end RecordedDesign

/-- An invoker that counts its calls and fails at a chosen one. -/
structure Recorder where
  failAt : Option Nat := none
  calls : Nat := 0

namespace Recorder

/-- Apply a command to the design, unless this is the call to fail at. -/
def invoke (design : RecordedDesign) (recorder : Recorder) (invocation : Invocation) :
    Reply RecordedDesign Recorder :=
  let recorder := { recorder with calls := recorder.calls + 1 }
  if recorder.failAt = some recorder.calls then
    { design := design
      invoker := recorder
      result := .error ("injected failure in `" ++ invocation.name ++ "`")
      events := [.failureInjected recorder.calls] }
  else
    { design := design.apply invocation.command
      invoker := recorder
      result := .ok () }

/-- The recording back end. -/
def backend : Backend RecordedDesign Recorder where
  checkReady := RecordedDesign.checkReady
  invoke := invoke

end Recorder

/-- An invoker that counts its calls and refuses one command or all calls of one operation. -/
structure Censor where
  /-- The refused command or operation. -/
  refused : String
  /-- Why it is refused. -/
  cause : String
  calls : Nat := 0

namespace Censor

/-- Apply the arguments of a command to the design, unless it is refused. -/
def invoke (design : RecordedDesign) (censor : Censor) (invocation : Invocation) :
    Reply RecordedDesign Censor :=
  let censor := { censor with calls := censor.calls + 1 }
  if invocation.name = censor.refused ∨ invocation.command = censor.refused then
    { design := design, invoker := censor, result := .error censor.cause }
  else
    { design := design.apply invocation.arguments, invoker := censor, result := .ok () }

/-- The recording back end with a censor. -/
def backend : Backend RecordedDesign Censor where
  checkReady := RecordedDesign.checkReady
  invoke := invoke

end Censor

end StagedSynthesis
