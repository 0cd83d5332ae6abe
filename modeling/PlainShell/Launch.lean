import PlainShell.SearchPath
import PlainShell.Text.Quoted

/-!
Starting a program in a directory. The directory has to be one that may be worked in. Then the
program is tried under one path or several, and the first that starts counts. A start fails with an
error of the system, is interrupted, or ends.
-/

namespace PlainShell

structure SystemError where
  number : Int
  reason : Text
  file : Text
  deriving Repr

namespace SystemError

def message (error : SystemError) : Text :=
  "[Errno " ++ Text.ofInt error.number ++ "] " ++ error.reason ++ ": " ++ Quoted.quote error.file

/-- The error says that there is no such file: the path does not exist, or leads through a file. -/
def IsAbsence (error : SystemError) : Prop := error.number = 2 ∨ error.number = 20

instance (error : SystemError) : Decidable error.IsAbsence :=
  inferInstanceAs (Decidable (error.number = 2 ∨ error.number = 20))

end SystemError

inductive Launch where
  | failed (error : SystemError)
  | interrupted
  | ended (output : Bytes) (status : Int)
  deriving Repr

/-- The second try counts when the first one has failed. Of two failures the first is told, unless
it was absence. -/
def Launch.orElse : Launch → Launch → Launch
  | .failed error, .failed later => .failed (if error.IsAbsence then later else error)
  | .failed _, launch => launch
  | launch, _ => launch

/-- The directories along which a start looks for a name without a slash. If there is no list, it has
one of its own. -/
def Environment.programDirectories (environment : Environment) : List Text :=
  ((environment.get? SearchPath.variableName).getD "/bin:/usr/bin").splitOn SearchPath.separator

namespace Host

def permissionDenied (file : Text) : SystemError := ⟨13, "Permission denied", file⟩

def noSuchFile (file : Text) : SystemError := ⟨2, "No such file or directory", file⟩

def notDirectory (file : Text) : SystemError := ⟨20, "Not a directory", file⟩

/-- What keeps a program from being started in a directory. -/
def directoryFault (host : Host) (directory : Text) : Option SystemError :=
  match host.find? directory with
  | none => some (noSuchFile directory)
  | some (.file _) => some (notDirectory directory)
  | some (.directory false) => some (permissionDenied directory)
  | some (.directory true) => none

/-- The machine as it looks to a start in the directory. -/
def entered (host : Host) (directory : Option Text) : Host :=
  match host.programLookup, directory with
  | .posix, some known => { host with directory := some (host.fromRoot known) }
  | .posix, none | .direct, _ => host

/-- The paths under which a program is tried, in order. -/
def attempts (host : Host) (environment : Environment) (program : Text) : List Text :=
  match host.programLookup with
  | .direct => [program]
  | .posix =>
    if Path.slash ∈ program then [program]
    else environment.programDirectories.map fun directory => Path.join directory program

/-- Starting what stands at a path. An error tells the name of the program that was asked for. -/
def launchFile (host : Host) (program path : Text) : Launch :=
  match host.find? path with
  | none => .failed (noSuchFile program)
  | some (.directory _) | some (.file .denied) => .failed (permissionDenied program)
  | some (.file (.fails number reason)) => .failed ⟨number, reason, program⟩
  | some (.file .interrupted) => .interrupted
  | some (.file (.ends output status)) => .ended output status

/-- Starting a program. A known working directory is looked at first. -/
def launch (host : Host) (directory : Option Text) (environment : Environment) (program : Text) :
    Launch :=
  match directory.bind host.directoryFault with
  | some error => .failed error
  | none =>
    ((host.attempts environment program).map ((host.entered directory).launchFile program)).foldl
      Launch.orElse (.failed (noSuchFile program))

end Host

end PlainShell
