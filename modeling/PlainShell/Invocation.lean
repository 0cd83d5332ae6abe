import PlainShell.Builtin

/-!
Running a handler for a command. Whatever handler it is, its failure is contained: it becomes one
line and the status 1, after all that the handler had written. Only an exit and an interrupt go
through.
-/

namespace PlainShell

/-- One use of a command. -/
structure Invocation where
  name : Text
  arguments : List Text
  deriving DecidableEq, Repr

namespace Invocation

def summary (invocation : Invocation) : Text :=
  "Process(" ++ invocation.name ++ " " ++ Text.joined " " invocation.arguments ++ ")"

def failureLine (invocation : Invocation) (fault : Fault) : Event :=
  .line ("Error executing '" ++ invocation.name ++ "': " ++ fault.message)

/-- What the handler does, before its failure is contained. Without a handler that is a fault. -/
def attempt (invocation : Invocation) (host : Host) (handler : Option Handler) (session : Session) :
    Run Int :=
  match handler with
  | some handler => handler.run host session invocation.arguments
  | none => Run.departure session [] (.fault .noHandler)

/-- Runs the handler, contains its failure and pushes the output on. -/
def perform (invocation : Invocation) (host : Host) (handler : Option Handler) (session : Session) :
    Run Int :=
  let attempted := invocation.attempt host handler session
  match attempted.outcome with
  | .ok status => Run.value attempted.session (attempted.events ++ [.flush]) status
  | .error (.fault fault) =>
    Run.value attempted.session (attempted.events ++ [invocation.failureLine fault, .flush]) 1
  | .error _ => attempted

/-- The status that stays on record: none has been set when the handler left. -/
def recordedStatus (performed : Run Int) : Int :=
  match performed.outcome with
  | .ok status => status
  | .error _ => 0

end Invocation

end PlainShell
