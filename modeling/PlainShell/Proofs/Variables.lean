import Mathlib.Data.List.Basic
import PlainShell.Proofs.Command
import PlainShell.Proofs.Turns

/-!
The variables that a session looks at. A command looks for programs along `PATH` and goes home to
`HOME`; all other variables are only handed on. So in two environments that agree on these two a
session does the same, and the programs it starts are given the one or the other.
-/

namespace PlainShell

/-- The same session in another environment. -/
def Session.within (session : Session) (environment : Environment) : Session :=
  { session with environment }

@[simp] theorem Session.directory_within (session : Session) (environment : Environment) :
    (session.within environment).directory = session.directory := rfl

@[simp] theorem Session.environment_within (session : Session) (environment : Environment) :
    (session.within environment).environment = environment := rfl

@[simp] theorem Session.builtins_within (session : Session) (environment : Environment) :
    (session.within environment).builtins = session.builtins := rfl

def Start.within (record : Start) (environment : Environment) : Start :=
  { record with environment }

/-- The event as it is when the programs are given another environment. -/
def Event.within (environment : Environment) : Event → Event
  | .start record => .start (record.within environment)
  | event => event

namespace Run

variable {α β : Type}

def within (run : Run α) (environment : Environment) : Run α :=
  ⟨run.events.map (Event.within environment), run.session.within environment, run.outcome⟩

@[simp] theorem outcome_within (run : Run α) (environment : Environment) :
    (run.within environment).outcome = run.outcome := rfl

theorem within_after (run : Run α) (environment : Environment) (events : List Event) :
    (run.after events).within environment =
      (run.within environment).after (events.map (Event.within environment)) := by
  simp only [within, after, List.map_append]

theorem starts_within (run : Run α) (environment : Environment) :
    (run.within environment).starts = run.starts.map (·.within environment) := by
  simp only [starts, within, List.filterMap_map, List.map_filterMap]
  refine List.filterMap_congr fun event _ => ?_
  cases event <;> rfl

theorem notes_within (run : Run α) (environment : Environment) :
    (run.within environment).notes = run.notes := by
  simp only [notes, within, List.filterMap_map]
  refine List.filterMap_congr fun event _ => ?_
  cases event <;> rfl

theorem written_within (run : Run α) (environment : Environment) :
    (run.within environment).written = run.written := by
  simp only [written_eq_octets, within, List.flatMap_map]
  refine List.flatMap_congr fun event _ => ?_
  cases event <;> rfl

end Run

/-- The two environments tell a session the same. -/
structure Environment.Agree (first second : Environment) : Prop where
  path : first.get? SearchPath.variableName = second.get? SearchPath.variableName
  home : first.get? "HOME" = second.get? "HOME"

/-- Setting a variable that is neither of the two changes nothing for a session. -/
theorem Environment.agree_insert (environment : Environment) {name : Text}
    (noPath : SearchPath.variableName ≠ name) (noHome : ("HOME" : Text) ≠ name)
    (first second : Text) :
    Agree (environment.insert name first) (environment.insert name second) := by
  constructor
  · rw [Table.get?_insert_of_ne _ noPath, Table.get?_insert_of_ne _ noPath]
  · rw [Table.get?_insert_of_ne _ noHome, Table.get?_insert_of_ne _ noHome]

/-- A start looks for its program along the same directories. -/
theorem Environment.Agree.launch_eq {first second : Environment} (agree : first.Agree second)
    (host : Host) (directory : Option Text) (program : Text) :
    host.launch directory first program = host.launch directory second program := by
  have same : first.programDirectories = second.programDirectories := by
    rw [programDirectories, agree.path, programDirectories]
  simp only [Host.launch, Host.attempts, same]

/-! In an environment that agrees with its own, every operation of the session is the same. -/

section Agree

variable {session : Session} {environment : Environment}
  (agree : environment.Agree session.environment) (host : Host)
include agree

namespace Session

theorem searchDirectories_within :
    (session.within environment).searchDirectories = session.searchDirectories := by
  have same : environment.filled? SearchPath.variableName =
      session.environment.filled? SearchPath.variableName := by
    rw [Environment.filled?, agree.path, Environment.filled?]
  change SearchPath.directories environment = SearchPath.directories session.environment
  rw [SearchPath.directories, same, SearchPath.directories]

theorem findProgram_within (name : Text) :
    (session.within environment).findProgram host name = session.findProgram host name := by
  rw [findProgram, searchDirectories_within agree, findProgram]
  rfl

theorem searchNote_within (name : Text) :
    (session.within environment).searchNote host name = session.searchNote host name := by
  rw [searchNote, findProgram_within agree, searchDirectories_within agree, searchNote]

theorem home_within : (session.within environment).home host = session.home host := by
  have same : environment.filled? "HOME" = session.environment.filled? "HOME" := by
    rw [Environment.filled?, agree.home, Environment.filled?]
  rw [home, environment_within, same, home]

theorem enter_within (arguments : List Text) :
    (session.within environment).enter host arguments =
      (session.enter host arguments).within environment := by
  cases arguments with
  | nil => rfl
  | cons argument rest =>
    have same : (session.within environment).wanted host argument >>=
          (session.within environment).destination host =
        session.wanted host argument >>= session.destination host := by
      rw [wanted, home_within agree, wanted]
      rfl
    simp only [enter, same]
    cases session.wanted host argument >>= session.destination host <;> rfl

theorem describe_within (arguments : List Text) :
    (session.within environment).describe host arguments =
      (session.describe host arguments).within environment := by
  cases arguments with
  | nil => rfl
  | cons name rest =>
    have builtin : (session.within environment).isBuiltin name = session.isBuiltin name := rfl
    simp only [describe, builtin, findProgram_within agree, searchNote_within agree]
    cases session.isBuiltin name with
    | true => rfl
    | false => cases session.findProgram host name <;> rfl

end Session

theorem Handler.run_within (handler : Handler) (arguments : List Text) :
    handler.run host (session.within environment) arguments =
      (handler.run host session arguments).within environment := by
  cases handler with
  | echo => rfl
  | exit => rfl
  | type => exact Session.describe_within agree host arguments
  | cd => exact Session.enter_within agree host arguments
  | pwd =>
    have known : (session.within environment).workingDirectory = session.workingDirectory := rfl
    simp only [run, Session.printDirectory, known]
    cases session.workingDirectory <;> rfl
  | script lines ending =>
    simp only [run, Run.within, List.map_map]
    rfl

namespace Invocation

variable (invocation : Invocation)

theorem perform_within (handler : Option Handler) :
    invocation.perform host handler (session.within environment) =
      (invocation.perform host handler session).within environment := by
  have same : invocation.attempt host handler (session.within environment) =
      (invocation.attempt host handler session).within environment := by
    cases handler with
    | none => rfl
    | some handler => exact handler.run_within agree host invocation.arguments
  simp only [perform, same, Run.outcome_within]
  cases (invocation.attempt host handler session).outcome with
  | ok status => simp [Run.within, Run.value, Event.within]
  | error cause =>
    cases cause <;> simp [Run.within, Run.value, Event.within, failureLine, Event.line]

theorem launch_within (path : Text) :
    invocation.launch host (session.within environment) path =
      (invocation.launch host session path).within environment := by
  simp only [launch, Session.directory_within, Session.environment_within, agree.launch_eq host]
  split
  · rfl
  · cases host.launch session.directory session.environment path with
    | failed error => rfl
    | interrupted => rfl
    | ended output status =>
      simp only [Run.within_after]
      congr 1
      by_cases silent : output = [] <;> by_cases success : shellStatus status = 0 <;>
        simp only [conclude, silent, success, ↓reduceIte] <;> rfl

end Invocation

namespace Session

theorem dispatch_within (tokens : List Text) (line : Text) :
    (session.within environment).dispatch host tokens line =
      (session.dispatch host tokens line).within environment := by
  cases tokens with
  | nil => rfl
  | cons name arguments =>
    have found := findProgram_within agree host name
    cases table : session.builtins.get? name with
    | some handler =>
      have listed : (session.within environment).builtins.get? name = some handler := table
      rw [dispatch_builtin table, dispatch_builtin listed, Invocation.perform_within agree,
        Run.within_after]
      rfl
    | none =>
      have absent : (session.within environment).builtins.get? name = none := table
      cases search : session.findProgram host name with
      | some path =>
        rw [dispatch_program table search, dispatch_program absent (found.trans search)]
        simp only [Invocation.launch_within agree]
        rfl
      | none =>
        rw [dispatch_nothing table search, dispatch_nothing absent (found.trans search),
          searchDirectories_within agree]
        rfl

theorem execute_within (line : Text) :
    (session.within environment).execute host line =
      (session.execute host line).within environment := by
  unfold execute
  split
  · rfl
  · exact dispatch_within agree host _ line

end Session

end Agree

namespace Session

theorem promptEvents_within (environment : Environment) (prompt : Text) :
    (promptEvents prompt).map (Event.within environment) = promptEvents prompt := rfl

/-- The loop over lines that lie ready: each line leaves the environment to the next. -/
theorem consume_within {environment other : Environment} (agree : other.Agree environment)
    (host : Host) (prompt : Text) (ending : Ending) (directory : Option Text) (lines : List Text) :
    (stocked directory other).consume host prompt ending lines =
      ((stocked directory environment).consume host prompt ending lines).within other := by
  induction lines generalizing directory with
  | nil => cases ending <;> rfl
  | cons line rest ih =>
    have here : (stocked directory other).execute host line =
        ((stocked directory environment).execute host line).within other :=
      @execute_within (stocked directory environment) other agree host line
    cases ended : ((stocked directory environment).execute host line).outcome with
    | error cause =>
      have likewise : ((stocked directory other).execute host line).outcome = .error cause := by
        rw [here]
        exact ended
      rw [consume_of_error _ host prompt ending rest ended,
        consume_of_error _ host prompt ending rest likewise, here]
      simp only [Run.within, List.map_append, promptEvents_within]
    | ok status =>
      have likewise : ((stocked directory other).execute host line).outcome = .ok status := by
        rw [here]
        exact ended
      have left : ((stocked directory environment).execute host line).session =
          .stocked ((⟨directory, line⟩ : Command).next host environment) environment :=
        ((⟨directory, line⟩ : Command).execute_governs host environment).session
      have onward := ih ((⟨directory, line⟩ : Command).next host environment)
      rw [consume_of_ok _ host prompt ending rest ended,
        consume_of_ok _ host prompt ending rest likewise, here, Run.within_after, left, ← onward]
      simp only [Run.within, left, List.map_append, promptEvents_within]
      rfl

/-- Of the environment a run of the loop sees no more than the two variables. -/
theorem loop_within {environment other : Environment} (agree : other.Agree environment)
    (host : Host) (directory : Option Text) (prompt : Text) (input : Input) :
    (start host other directory).loop host prompt input =
      ((start host environment directory).loop host prompt input).within other := by
  rw [loop_eq_consume, loop_eq_consume]
  exact consume_within agree host prompt input.ending (directory.or host.directory) input.lines

end Session

end PlainShell
