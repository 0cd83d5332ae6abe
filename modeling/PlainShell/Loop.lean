import PlainShell.Execute
import PlainShell.Input

/-!
The loop of the shell: prompt, read, execute, again. It has no value to end with. An exit line
leaves it, as does whatever a command does not contain; input that fails is reported and leaves with
status 1.
-/

namespace PlainShell.Session

/-- Everything is to be seen before the shell waits for a line. -/
def promptEvents (prompt : Text) : List Event := [.text prompt, .flush, .read]

def inputFailure (details : Text) : List Event :=
  [.note (.inputFailed details), .line (ShellError.inputRead details).message, .flush]

def loop (session : Session) (host : Host) (prompt : Text) (input : Input) : Run Empty :=
  match _ : input.next with
  | .failed details =>
    Run.departure session (promptEvents prompt ++ inputFailure details)
      (.exit (ShellError.inputRead details).code)
  | .interrupted => Run.departure session (promptEvents prompt) .interrupt
  | .line line rest =>
    ((session.execute host line).bind fun status later =>
      (later.loop host prompt rest).after [.note (.finished line status)]).after
        (promptEvents prompt)
termination_by input.pending.length
decreasing_by exact Input.length_lt_of_next ‹_›

end PlainShell.Session
