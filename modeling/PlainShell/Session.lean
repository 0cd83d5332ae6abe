import PlainShell.Registry
import PlainShell.SearchPath

/-!
What one command leaves for the next: the working directory, the environment and the builtins. The
working directory is the session's own and may be unknown; programs are started in it.
-/

namespace PlainShell

structure Session where
  directory : Option Text
  environment : Environment
  builtins : Registry

namespace Session

/-- A session with the stock builtins. Without a directory of its own it begins where the
interpreter is. -/
def start (host : Host) (environment : Environment) (directory : Option Text) : Session :=
  ⟨directory.or host.directory, environment, Registry.stock⟩

def isBuiltin (session : Session) (name : Text) : Bool := (session.builtins.get? name).isSome

def workingDirectory (session : Session) : Except ShellError Text :=
  match session.directory with
  | some directory => .ok directory
  | none => .error (.directoryUnknown none)

def resolve (session : Session) (path : Text) : Except ShellError Text :=
  match Path.resolve session.directory path with
  | some target => .ok target
  | none => .error (.directoryUnknown none)

/-- The directory that a change to the path leads to. Whatever the reason it cannot be entered, the
error names the path as it was given. -/
def destination (session : Session) (host : Host) (path : Text) : Except ShellError Text :=
  match Path.resolve session.directory path with
  | none => .error (.directoryNotFound path)
  | some target =>
    if host.isEnterable target then .ok target else .error (.directoryNotFound path)

def moveTo (session : Session) (directory : Text) : Session :=
  { session with directory := some directory }

/-- The home directory: `HOME` unless it is unset or empty, then the account's. -/
def home (session : Session) (host : Host) : Except ShellError Text :=
  match (session.environment.filled? "HOME").or (host.accountHome.filter (· ≠ [])) with
  | some directory => .ok directory
  | none => .error (.homeUnknown "$HOME is not defined")

def searchDirectories (session : Session) : List Text := SearchPath.directories session.environment

def findProgram (session : Session) (host : Host) (name : Text) : Option Text :=
  SearchPath.search host session.directory session.searchDirectories name

def summary (session : Session) : Text :=
  "CommandContext(cwd=" ++
    (match session.directory with
      | some directory => Quoted.quote directory
      | none => "None") ++
    ", env_vars=" ++ Text.ofInt session.environment.size ++ ")"

end Session

end PlainShell
