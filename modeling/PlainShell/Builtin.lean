import PlainShell.Run

/-!
What the builtins do. The stock ones say what a user did wrong in a line and a status, and never
fail.
-/

namespace PlainShell

namespace Session

/-- The log of a search for a program. -/
def searchNote (session : Session) (host : Host) (name : Text) : Note :=
  match session.findProgram host name with
  | some path => .resolved name path
  | none => .notResolved name session.searchDirectories.length

/-- The error as one line, its code as the status. -/
def report (session : Session) (error : ShellError) : Run Int :=
  Run.value session [.line error.message] error.code

def echo (session : Session) (arguments : List Text) : Run Int :=
  Run.value session [.line (Text.joined " " arguments)] 0

/-- Says how the first argument would be taken as a command name. -/
def describe (session : Session) (host : Host) (arguments : List Text) : Run Int :=
  match arguments with
  | [] => Run.value session [] 0
  | name :: _ =>
    if session.isBuiltin name then Run.value session [.line (name ++ " is a shell builtin")] 0
    else
      let note := Event.note (session.searchNote host name)
      match session.findProgram host name with
      | some path => Run.value session [note, .line (name ++ " is " ++ path)] 0
      | none => Run.value session [note, .line (name ++ ": not found")] 1

def printDirectory (session : Session) : Run Int :=
  match session.workingDirectory with
  | .ok directory => Run.value session [.line directory] 0
  | .error error => session.report error

def homeShortcut : Text := "~"

/-- The path that the argument of a change of directory stands for. -/
def wanted (session : Session) (host : Host) (argument : Text) : Except ShellError Text :=
  if argument = homeShortcut then session.home host else .ok argument

/-- Moves the session to the directory of the first argument; without one nothing happens. -/
def enter (session : Session) (host : Host) (arguments : List Text) : Run Int :=
  match arguments with
  | [] => Run.value session [] 0
  | argument :: _ =>
    match session.wanted host argument >>= session.destination host with
    | .error error => session.report error
    | .ok directory => Run.value (session.moveTo directory) [.note (.movedTo directory)] 0

end Session

def Handler.run (handler : Handler) (host : Host) (session : Session) (arguments : List Text) :
    Run Int :=
  match handler with
  | .echo => session.echo arguments
  | .type => session.describe host arguments
  | .exit => Run.departure session [.flush] (.exit 0)
  | .pwd => session.printDirectory
  | .cd => session.enter host arguments
  | .script lines ending => ⟨lines.map Event.line, session, ending⟩

end PlainShell
