import PlainShell.Text.Quoted

/-!
The diagnostic log. A note says what the shell did or met; its source, level and wording follow from
that.
-/

namespace PlainShell

inductive Level where
  | debug
  | info
  | warning
  | error
  | critical
  deriving DecidableEq, Repr

namespace Level

def severity : Level → Nat
  | .debug => 10
  | .info => 20
  | .warning => 30
  | .error => 40
  | .critical => 50

def name : Level → Text
  | .debug => "DEBUG"
  | .info => "INFO"
  | .warning => "WARNING"
  | .error => "ERROR"
  | .critical => "CRITICAL"

def all : List Level := [.debug, .info, .warning, .error, .critical]

end Level

inductive Note where
  | resolved (name path : Text)
  | notResolved (name : Text) (searched : Nat)
  | routedToBuiltin (name : Text)
  | nothingNamed (name : Text)
  | running (name path : Text) (arguments : List Text)
  | startFailed (path reason : Text)
  | ended (path : Text) (status : Int)
  | movedTo (directory : Text)
  | exitRequested
  | inputFailed (details : Text)
  | finished (line : Text) (status : Int)
  deriving DecidableEq, Repr

namespace Note

def level : Note → Level
  | .startFailed .. => .warning
  | _ => .debug

def source : Note → Text
  | .resolved .. | .notResolved .. => "myshell.search_path"
  | .routedToBuiltin .. | .nothingNamed .. => "myshell.dispatcher"
  | .running .. | .startFailed .. | .ended .. => "myshell.executor"
  | .movedTo .. => "myshell.commands.cd"
  | .exitRequested | .inputFailed .. | .finished .. => "myshell.shell"

def message : Note → Text
  | .resolved name path => "resolved " ++ name ++ " to " ++ path
  | .notResolved name searched =>
    name ++ " not found in " ++ Text.ofInt searched ++ " search directories"
  | .routedToBuiltin name => "dispatching " ++ name ++ " to builtin"
  | .nothingNamed name => "no builtin or executable named " ++ name
  | .running name path arguments =>
    "running " ++ name ++ " as " ++ path ++ " with args " ++ Quoted.quoteAll arguments
  | .startFailed path reason => "failed to start " ++ path ++ ": " ++ reason
  | .ended path status => path ++ " exited with status " ++ Text.ofInt status
  | .movedTo directory => "cwd is now " ++ directory
  | .exitRequested => "exit requested"
  | .inputFailed details => "input failed: " ++ details
  | .finished line status => Quoted.quote line ++ " finished with status " ++ Text.ofInt status

/-- One line of the log, with a fixed word where the time would be. -/
def line (note : Note) : Text :=
  "TIME - " ++ note.source ++ " - " ++ note.level.name ++ " - " ++ note.message ++ "\n"

end Note

end PlainShell
