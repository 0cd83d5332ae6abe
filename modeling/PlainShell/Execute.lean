import PlainShell.External
import PlainShell.Tokens

/-!
One command line. Its first token names a builtin or a program; a line that names neither is
answered as a whole. A line whose first word is `exit` leaves the shell before anything is looked
up.
-/

namespace PlainShell.Session

/-- The answer to a line that names nothing. -/
def refuse (session : Session) (name line : Text) : Run Int :=
  let error := ShellError.commandNotFound line
  Run.value session [.note (.nothingNamed name), .line error.message, .flush] error.code

def dispatch (session : Session) (host : Host) (tokens : List Text) (line : Text) : Run Int :=
  match tokens with
  | [] => Run.value session [] 0
  | name :: arguments =>
    let invocation : Invocation := ⟨name, arguments⟩
    match session.builtins.get? name with
    | some handler =>
      (invocation.perform host (some handler) session).after [.note (.routedToBuiltin name)]
    | none =>
      (invocation.external host session).bind fun found later =>
        match found with
        | some status => Run.value later [] status
        | none => later.refuse name line

def exitWord : Text := "exit"

def execute (session : Session) (host : Host) (line : Text) : Run Int :=
  if Tokens.firstWord line = exitWord then
    Run.departure session [.note .exitRequested, .flush] (.exit 0)
  else session.dispatch host (Tokens.ofLine line) line

end PlainShell.Session
