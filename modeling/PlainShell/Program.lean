import PlainShell.Loop
import PlainShell.Options
import PlainShell.Output

/-!
The program as a whole: options, then the loop, on the two channels of output. The first carries
what the shell writes. The second carries a complaint about the options, or the notes that are
severe enough for the log level in force.
-/

namespace PlainShell.Program

def usage : Text :=
  "usage: myshell [-h] [--prompt PROMPT]\n" ++
  "               [--log-level \x7bDEBUG,INFO,WARNING,ERROR,CRITICAL\x7d] [--version]\n"

def help : Text :=
  usage ++
  "\nInteractive shell with echo, type, pwd, cd and exit builtins.\n" ++
  "\noptions:\n" ++
  "  -h, --help            show this help message and exit\n" ++
  "  --prompt PROMPT       Prompt printed before each command\n" ++
  "  --log-level \x7bDEBUG,INFO,WARNING,ERROR,CRITICAL\x7d\n" ++
  "                        Diagnostic log level (log is written to stderr)\n" ++
  "  --version             show program's version number and exit\n"

def version : Text := "myshell 0.1.0\n"

def complaint (error : UsageError) : Text :=
  usage ++ "myshell: error: " ++ error.message ++ "\n"

/-- The names that stand for a severity: the levels, two more names for them, and the one below all.
-/
def severities : List (Text × Nat) :=
  Level.all.map (fun level => (level.name, level.severity)) ++
    [(Text.ofString "WARN", Level.warning.severity),
     (Text.ofString "FATAL", Level.critical.severity), (Text.ofString "NOTSET", 0)]

/-- The least severity that is logged. An unknown name means warnings; one known name stands for the
shape of a log line, and that is no severity. A second such name, `_STYLES`, is left out: it makes
the program fail as well, with a message that differs from run to run, and counts as unknown here.
-/
def threshold (name : Text) : Except Fault Nat :=
  if name = "BASIC_FORMAT" then .error (.notALevel "%(levelname)s:%(name)s:%(message)s")
  else .ok ((severities.lookup name).getD Level.warning.severity)

/-- What one run of the program comes to. -/
structure Report where
  result : Except Fault Int
  events : List Event
  complaint : Text
  threshold : Nat

namespace Report

def stopped (code : Int) (events : List Event) (complaint : Text) : Report :=
  ⟨.ok code, events, complaint, Level.warning.severity⟩

def failed (fault : Fault) (events : List Event) (threshold : Nat) : Report :=
  ⟨.error fault, events, [], threshold⟩

/-- What the first channel has taken once the program is over. -/
def stdout (report : Report) : Bytes :=
  ((Output.overBytes Spill.none).deliver report.events).flush.content

def logged (report : Report) : List Note :=
  (report.events.filterMap Event.note?).filter fun note =>
    report.threshold ≤ note.level.severity

/-- The second channel takes characters only, so stray bytes are spelled out on it. -/
def stderr (report : Report) : Text :=
  Quoted.spellStrays (report.complaint ++ report.logged.flatMap Note.line)

def starts (report : Report) : List Start := report.events.filterMap Event.start?

end Report

/-- How the program ends when the loop has been left. An interrupt ends the line it came in. -/
def conclude (run : Run Empty) (threshold : Nat) : Report :=
  match run.outcome with
  | .error (.exit code) => ⟨.ok code, run.events, [], threshold⟩
  | .error .interrupt => ⟨.ok 130, run.events ++ [.text "\n"], [], threshold⟩
  | .error (.fault fault) => .failed fault run.events threshold

/-- The program with its options settled. -/
def start (host : Host) (environment : Environment) (input : Input) (choice : Options.Choice) :
    Report :=
  match choice.logLevel with
  | none => .failed .emptyLevel [] Level.warning.severity
  | some level =>
    match threshold level.upper with
    | .error fault => .failed fault [] Level.warning.severity
    | .ok threshold =>
      match choice.prompt with
      | none => .failed .emptyPrompt [.flush] threshold
      | some prompt =>
        conclude ((Session.start host environment none).loop host prompt input) threshold

/-- One run of the program, from its arguments to its end. -/
def run (host : Host) (environment : Environment) (arguments : List Text) (input : Input) :
    Report :=
  match Options.parse (Settings.ofEnvironment environment) arguments with
  | .error .help => .stopped 0 [.text help] []
  | .error .version => .stopped 0 [.text version] []
  | .error (.misuse error) => .stopped 2 [] (complaint error)
  | .ok choice => start host environment input choice

end PlainShell.Program
