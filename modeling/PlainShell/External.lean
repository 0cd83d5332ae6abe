import PlainShell.Invocation
import PlainShell.Launch

/-!
Programs that are no builtins. A name is searched for, the program is started in the session's
directory with its environment, and its output is forwarded when it has ended. A start that fails
and an end other than success add one line. A program ended by signal `k` counts as status `128 +
k`.
-/

namespace PlainShell

/-- How a program ended, given a status other than success. -/
def describeExit (status : Int) : Text :=
  if status < 0 then "signal: " ++ Text.ofInt (-status) else "exit status " ++ Text.ofInt status

def shellStatus (status : Int) : Int := if status < 0 then 128 - status else status

namespace Invocation

/-- What the end of a program shows: its output, if any, and a line unless it succeeded. The line
comes after the last flush. -/
def conclude (invocation : Invocation) (session : Session) (path : Text) (output : Bytes)
    (status : Int) : Run (Option Int) :=
  let shown := if output = [] then [] else [Event.bytes output]
  let result := shellStatus status
  let error := ShellError.externalProgram invocation.name (describeExit status) result
  let complaint := if result = 0 then [] else [Event.line error.message]
  Run.value session (shown ++ [.flush, .note (.ended path status)] ++ complaint) (some result)

/-- The program at the path, started with the arguments. Of the values that no program can be given
only a NUL in an argument is refused here: a variable name with `=`, and a NUL in a variable or in
the directory, are left out. -/
def launch (invocation : Invocation) (host : Host) (session : Session) (path : Text) :
    Run (Option Int) :=
  let argv := path :: invocation.arguments
  let announced := [Event.note (.running invocation.name path invocation.arguments)]
  if argv.any (fun argument => Text.nul ∈ argument) then
    Run.departure session announced (.fault .embeddedNul)
  else
    let started := announced ++ [.start ⟨argv, session.directory, session.environment⟩]
    match host.launch session.directory session.environment path with
    | .failed error =>
      let report := ShellError.externalProgram invocation.name error.message 1
      Run.value session (started ++ [.note (.startFailed path error.message), .line report.message])
        (some report.code)
    | .interrupted => Run.departure session started .interrupt
    | .ended output status => (invocation.conclude session path output status).after started

/-- The status of the program the name finds, and nothing when it finds none. -/
def external (invocation : Invocation) (host : Host) (session : Session) : Run (Option Int) :=
  let noted := [Event.note (session.searchNote host invocation.name)]
  match session.findProgram host invocation.name with
  | none => Run.value session noted none
  | some path => (invocation.launch host session path).after noted

end Invocation

end PlainShell
