import PlainShell.Proofs.Routing
import PlainShell.Proofs.Tables
import PlainShell.Proofs.Tokens

/-!
A line just before it is executed, in a session with the stock builtins. The tokens, the files, the
environment and the directory in force settle which program it starts, which directory it leads to,
what it complains of and how it leaves the shell. All of this is said here from the line itself, and
`execute` is then shown to do exactly that.
-/

namespace PlainShell

/-- A session with the stock builtins. -/
def Session.stocked (directory : Option Text) (environment : Environment) : Session :=
  ⟨directory, environment, Registry.stock⟩

/-- A line and the directory it finds in force. -/
structure Command where
  directory : Option Text
  line : Text
  deriving DecidableEq, Repr

namespace Command

variable (host : Host) (environment : Environment) (command : Command)

/-- The session that the line finds. -/
def session : Session := .stocked command.directory environment

/-- The path of the program that the line names, and its arguments. -/
def program? : Option (Text × List Text) :=
  match Tokens.ofLine command.line with
  | [] => none
  | name :: arguments =>
    if (command.session environment).isBuiltin name then none
    else
      (SearchPath.search host command.directory (SearchPath.directories environment) name).map
        fun path => (path, arguments)

/-- The start that the line asks for. An argument with a NUL in it keeps it from being made. -/
def start? : Option Start :=
  match command.program? host environment with
  | none => none
  | some (path, arguments) =>
    if HoldNul arguments then none
    else some ⟨path :: arguments, command.directory, environment⟩

def home? : Option Text :=
  (environment.filled? "HOME").or (host.accountHome.filter (· ≠ []))

/-- The directory that `cd` leads to with the argument, if one may work there. -/
def goal? (argument : Text) : Option Text :=
  let wanted := if argument = "~" then home? host environment else some argument
  (wanted.bind (Path.resolve command.directory)).filter host.isEnterable

/-- The error of a `cd` that leads nowhere. It names the directory that was wanted. -/
def goalError (argument : Text) : ShellError :=
  if argument = "~" then
    match home? host environment with
    | none => .homeUnknown "$HOME is not defined"
    | some home => .directoryNotFound home
  else .directoryNotFound argument

/-- The directory that the line moves to, if it is a `cd` that succeeds. -/
def moved? : Option Text :=
  match Tokens.ofLine command.line with
  | name :: argument :: _ => if name = "cd" then command.goal? host environment argument else none
  | _ => none

/-- The directory in force after the line. -/
def next : Option Text := (command.moved? host environment).or command.directory

/-- How the line leaves the shell, if it does. -/
def departure? : Option Departure :=
  if (Tokens.ofLine command.line).head? = some Session.exitWord then some (.exit 0)
  else
    match command.program? host environment with
    | none => none
    | some (path, arguments) =>
      if HoldNul arguments then some (.fault .embeddedNul)
      else
        match host.launch command.directory environment path with
        | .interrupted => some .interrupt
        | .failed _ | .ended .. => none

end Command

/-! The table of the stock builtins. -/

theorem Session.isBuiltin_iff {session : Session} {name : Text} :
    session.isBuiltin name = true ↔ name ∈ session.builtins.names := by
  rw [isBuiltin, Option.isSome_iff_ne_none, ne_eq, Table.get?_eq_none_iff, Decidable.not_not]

theorem Session.isBuiltin_stocked (directory : Option Text) (environment : Environment)
    (name : Text) :
    (stocked directory environment).isBuiltin name = true ↔ name ∈ Registry.stock.names :=
  isBuiltin_iff

/-- A name is one of the five, with its own handler, or it is not in the table. -/
theorem Registry.stock_cases (name : Text) :
    (name = "cd" ∧ stock.get? name = some .cd) ∨ (name = "echo" ∧ stock.get? name = some .echo) ∨
    (name = Session.exitWord ∧ stock.get? name = some .exit) ∨
    (name = "pwd" ∧ stock.get? name = some .pwd) ∨ (name = "type" ∧ stock.get? name = some .type) ∨
    (name ∉ stock.names ∧ stock.get? name = none) := by
  by_cases member : name ∈ stock.names
  · have listed : stock.names = [("cd" : Text), "echo", "exit", "pwd", "type"] := rfl
    simp only [listed, List.mem_cons, List.not_mem_nil, or_false] at member
    rcases member with rfl | rfl | rfl | rfl | rfl
    · exact Or.inl ⟨rfl, rfl⟩
    · exact Or.inr (Or.inl ⟨rfl, rfl⟩)
    · exact Or.inr (Or.inr (Or.inl ⟨rfl, rfl⟩))
    · exact Or.inr (Or.inr (Or.inr (Or.inl ⟨rfl, rfl⟩)))
    · exact Or.inr (Or.inr (Or.inr (Or.inr (Or.inl ⟨rfl, rfl⟩))))
  · exact Or.inr (Or.inr (Or.inr (Or.inr (Or.inr ⟨member, Table.get?_eq_none_iff.mpr member⟩))))

theorem Registry.ne_exitWord {name : Text} (absent : name ∉ stock.names) :
    name ≠ Session.exitWord :=
  (ne_of_mem_of_not_mem (by decide) absent).symm

namespace Command

variable {host : Host} {environment : Environment}

theorem directory_session (command : Command) :
    (command.session environment).directory = command.directory := rfl

theorem environment_session (command : Command) :
    (command.session environment).environment = environment := rfl

theorem goal_eq (command : Command) (argument : Text) :
    (command.session environment).wanted host argument >>=
        (command.session environment).destination host =
      match command.goal? host environment argument with
      | some directory => .ok directory
      | none => .error (goalError host environment argument) := by
  have arrive (wanted : Text) :
      (command.session environment).destination host wanted =
        match (Path.resolve command.directory wanted).filter host.isEnterable with
        | some directory => .ok directory
        | none => .error (.directoryNotFound wanted) := by
    rw [Session.destination]
    change (match Path.resolve command.directory wanted with | none => _ | some target => _) = _
    cases Path.resolve command.directory wanted with
    | none => rfl
    | some target =>
      by_cases enterable : host.isEnterable target <;>
        simp [Option.filter, enterable]
  by_cases home : argument = Session.homeShortcut
  · have shortcut : argument = ("~" : Text) := home
    have found : (command.session environment).home host =
        match home? host environment with
        | some directory => .ok directory
        | none => .error (.homeUnknown "$HOME is not defined") := rfl
    rw [Session.wanted, if_pos home, found, goal?, goalError, if_pos shortcut, if_pos shortcut]
    cases home? host environment with
    | none => rfl
    | some directory => exact arrive directory
  · have plain : ¬argument = ("~" : Text) := home
    rw [Session.wanted, if_neg home, goal?, goalError, if_neg plain, if_neg plain]
    exact arrive argument

/-- A run that starts nothing, returns and leaves the session. -/
structure Steady (session : Session) (run : Run Int) : Prop where
  session : run.session = session
  starts : run.starts = []
  returns : run.Returns

/-- A run without starts that ends with a value. -/
theorem Steady.of_value {session : Session} {events : List Event}
    (none : events.filterMap Event.start? = []) (status : Int) :
    Steady session (Run.value session events status) :=
  ⟨rfl, none, status, rfl⟩

theorem describe_steady (host : Host) (session : Session) (arguments : List Text) :
    Steady session (session.describe host arguments) := by
  unfold Session.describe
  split
  · exact .of_value rfl 0
  · split
    · exact .of_value rfl 0
    · split
      · exact .of_value rfl 0
      · exact .of_value rfl 1

theorem printDirectory_steady (session : Session) : Steady session session.printDirectory := by
  unfold Session.printDirectory
  split
  · exact .of_value rfl 0
  · exact .of_value rfl _

/-- A handler that returns is left as it ended, once its output has been pushed on. -/
theorem perform_of_ok {name : Text} {arguments : List Text} {handler : Handler} {session : Session}
    {status : Int} (returned : (handler.run host session arguments).outcome = .ok status) :
    (⟨name, arguments⟩ : Invocation).perform host (some handler) session =
      ⟨(handler.run host session arguments).events ++ [.flush],
        (handler.run host session arguments).session, .ok status⟩ := by
  simp only [Invocation.perform, Invocation.attempt, returned]
  rfl

/-- A line whose first token is not the exit word is dispatched. -/
theorem execute_of_head (host : Host) (environment : Environment) {command : Command}
    (other : (Tokens.ofLine command.line).head? ≠ some Session.exitWord) :
    (command.session environment).execute host command.line =
      (command.session environment).dispatch host (Tokens.ofLine command.line) command.line := by
  have first : Tokens.firstWord command.line ≠ Session.exitWord := by
    intro word
    exact other (Tokens.head?_ofLine_of_firstWord word (by decide))
  rw [Session.execute, if_neg first]

/-- What a command says about the run of its line. -/
structure Governs (host : Host) (environment : Environment) (command : Command) (run : Run Int) :
    Prop where
  session : run.session = .stocked (command.next host environment) environment
  starts : run.starts = (command.start? host environment).toList
  departs : ∀ cause, command.departure? host environment = some cause → run.outcome = .error cause
  returns : command.departure? host environment = none → run.Returns

namespace Governs

variable {command : Command} {run : Run Int}

/-- The line stays in the shell. -/
theorem of_stay (session : run.session = .stocked (command.next host environment) environment)
    (starts : run.starts = (command.start? host environment).toList)
    (stays : command.departure? host environment = none) (returns : run.Returns) :
    command.Governs host environment run := by
  refine ⟨session, starts, ?_, fun _ => returns⟩
  intro cause departs
  rw [stays] at departs
  simp at departs

/-- The line leaves the shell. -/
theorem of_departure {cause : Departure}
    (session : run.session = .stocked (command.next host environment) environment)
    (starts : run.starts = (command.start? host environment).toList)
    (departs : command.departure? host environment = some cause)
    (outcome : run.outcome = .error cause) :
    command.Governs host environment run := by
  refine ⟨session, starts, ?_, ?_⟩
  · intro other same
    rw [outcome, ← Option.some.inj (departs.symm.trans same)]
  · intro stays
    rw [departs] at stays
    simp at stays

/-- A run departs by what its line calls for, and by nothing else. -/
theorem departure?_eq (governs : command.Governs host environment run) {cause : Departure}
    (departed : run.outcome = .error cause) :
    command.departure? host environment = some cause := by
  cases told : command.departure? host environment with
  | some other =>
    have same := departed.symm.trans (governs.departs other told)
    rw [Except.error.inj same]
  | none =>
    obtain ⟨status, returned⟩ := governs.returns told
    have both := departed.symm.trans returned
    simp at both

end Governs

section Tokens

variable {command : Command} {name : Text} {arguments : List Text}
  (tokens : Tokens.ofLine command.line = name :: arguments)
include tokens

theorem head?_of_ne (other : name ≠ Session.exitWord) :
    (Tokens.ofLine command.line).head? ≠ some Session.exitWord := by
  simpa [tokens] using other

theorem execute_of_ne (host : Host) (environment : Environment) (other : name ≠ Session.exitWord) :
    (command.session environment).execute host command.line =
      (command.session environment).dispatch host (name :: arguments) command.line := by
  rw [execute_of_head host environment (head?_of_ne tokens other), tokens]

theorem session_of_not_cd (host : Host) (environment : Environment) (stays : name ≠ "cd") :
    .stocked (command.next host environment) environment = command.session environment := by
  have still : command.moved? host environment = none := by
    rw [moved?, tokens]
    cases arguments with
    | nil => rfl
    | cons argument rest => exact if_neg stays
  rw [next, still, Option.none_or, session]

section Stock

variable (stock : name ∈ Registry.stock.names)
include stock

theorem program?_of_stock : command.program? host environment = none := by
  have builtin : (command.session environment).isBuiltin name = true :=
    (Session.isBuiltin_stocked ..).mpr stock
  simp only [program?, tokens, if_pos builtin]

theorem start?_of_stock : command.start? host environment = none := by
  simp only [start?, program?_of_stock tokens stock]

theorem departure?_of_stock (other : name ≠ Session.exitWord) :
    command.departure? host environment = none := by
  simp only [departure?, if_neg (head?_of_ne tokens other), program?_of_stock tokens stock]

/-- A builtin that starts nothing, returns and leaves the directory that the line says. -/
theorem governs_of_builtin {handler : Handler} (found : Registry.stock.get? name = some handler)
    (other : name ≠ Session.exitWord)
    (steady : Steady (.stocked (command.next host environment) environment)
      (handler.run host (command.session environment) arguments)) :
    command.Governs host environment
      ((command.session environment).execute host command.line) := by
  obtain ⟨status, returned⟩ := steady.returns
  rw [execute_of_ne tokens host environment other, Session.dispatch_builtin found,
    perform_of_ok returned]
  refine .of_stay steady.session ?_ (departure?_of_stock tokens stock other) ⟨status, rfl⟩
  have started : (handler.run host (command.session environment) arguments).events.filterMap
      Event.start? = [] := steady.starts
  rw [start?_of_stock tokens stock, Run.starts_after, Run.starts, List.filterMap_append, started]
  rfl

end Stock

theorem governs_of_exit (leaves : name = Session.exitWord) :
    command.Governs host environment
      ((command.session environment).execute host command.line) := by
  subst leaves
  have stock : Session.exitWord ∈ Registry.stock.names := by decide
  have head : (Tokens.ofLine command.line).head? = some Session.exitWord := by
    rw [tokens, List.head?_cons]
  have departs : command.departure? host environment = some (.exit 0) := by
    rw [departure?, if_pos head]
  have still := session_of_not_cd tokens host environment (by decide)
  -- With a space in front the line is not met by the shortcut, and the handler leaves instead.
  by_cases first : Tokens.firstWord command.line = Session.exitWord
  · rw [Session.execute, if_pos first]
    exact .of_departure still.symm (by rw [start?_of_stock tokens stock]; rfl) departs rfl
  · have found : (command.session environment).builtins.get? Session.exitWord = some .exit := by rfl
    rw [Session.execute, if_neg first, tokens, Session.dispatch_builtin found]
    exact .of_departure still.symm (by rw [start?_of_stock tokens stock]; rfl) departs rfl

theorem enter_steady (host : Host) (environment : Environment) (moves : name = "cd") :
    Steady (.stocked (command.next host environment) environment)
      ((command.session environment).enter host arguments) := by
  subst moves
  rw [next, moved?, tokens]
  cases arguments with
  | nil => exact .of_value rfl 0
  | cons argument rest =>
    simp only [Session.enter, goal_eq, if_pos]
    cases command.goal? host environment argument with
    | none => exact .of_value rfl _
    | some directory => exact .of_value rfl 0

section Program

variable (host environment) (absent : name ∉ Registry.stock.names)
include absent

theorem program?_of_absent :
    command.program? host environment =
      ((command.session environment).findProgram host name).map fun path => (path, arguments) := by
  have other : ¬(command.session environment).isBuiltin name = true :=
    mt (Session.isBuiltin_stocked ..).mp absent
  simp only [program?, tokens, if_neg other]
  rfl

theorem departure?_of_absent :
    command.departure? host environment =
      match command.program? host environment with
      | none => none
      | some (path, arguments) =>
        if HoldNul arguments then some (.fault .embeddedNul)
        else
          match host.launch command.directory environment path with
          | .interrupted => some .interrupt
          | .failed _ | .ended .. => none := by
  rw [departure?, if_neg (head?_of_ne tokens (Registry.ne_exitWord absent))]

theorem session_of_absent :
    .stocked (command.next host environment) environment = command.session environment :=
  session_of_not_cd tokens host environment (ne_of_mem_of_not_mem (by decide) absent).symm

/-- A name that is in no table and on no search list: the line itself is the answer. -/
theorem execute_of_missing
    (missing : (command.session environment).findProgram host name = none) :
    (command.session environment).execute host command.line =
      Run.value (command.session environment)
        [.note (.notResolved name (command.session environment).searchDirectories.length),
          .note (.nothingNamed name), .line (ShellError.commandNotFound command.line).message,
          .flush] 127 := by
  rw [execute_of_ne tokens host environment (Registry.ne_exitWord absent)]
  exact Session.dispatch_nothing (Table.get?_eq_none_iff.mpr absent) missing arguments command.line

/-- A name that the search finds is noted with its path, and then the program is launched. -/
theorem execute_of_found {path : Text}
    (found : (command.session environment).findProgram host name = some path) :
    (command.session environment).execute host command.line =
      let launched :=
        (⟨name, arguments⟩ : Invocation).launch host (command.session environment) path
      ⟨.note (.resolved name path) :: launched.events, command.session environment,
        launched.outcome.map (·.getD 0)⟩ := by
  rw [execute_of_ne tokens host environment (Registry.ne_exitWord absent)]
  exact Session.dispatch_program (Table.get?_eq_none_iff.mpr absent) found arguments command.line

theorem governs_of_missing
    (missing : (command.session environment).findProgram host name = none) :
    command.Governs host environment
      ((command.session environment).execute host command.line) := by
  have looked := program?_of_absent host environment tokens absent
  have departs := departure?_of_absent host environment tokens absent
  have still := session_of_absent host environment tokens absent
  rw [missing, Option.map_none] at looked
  rw [looked] at departs
  rw [execute_of_missing host environment tokens absent missing]
  refine .of_stay still.symm ?_ departs ⟨127, rfl⟩
  simp only [start?, looked]
  rfl

section Found

variable {path : Text} (found : (command.session environment).findProgram host name = some path)
include found

/-- A NUL in an argument: nothing is started, and the fault leaves the shell. -/
theorem governs_of_nul (nul : HoldNul arguments) :
    command.Governs host environment
      ((command.session environment).execute host command.line) := by
  have looked := program?_of_absent host environment tokens absent
  have departs := departure?_of_absent host environment tokens absent
  have still := session_of_absent host environment tokens absent
  rw [found, Option.map_some] at looked
  simp only [looked, if_pos nul] at departs
  rw [execute_of_found host environment tokens absent found]
  simp only [Invocation.launch_of_nul ⟨name, arguments⟩ host _ path nul]
  refine .of_departure still.symm ?_ departs rfl
  simp only [start?, looked, if_pos nul]
  rfl

/-- Without a NUL the program is started with the arguments of the line. -/
theorem starts_of_found (clean : ¬HoldNul arguments) :
    ((command.session environment).execute host command.line).starts =
      [⟨path :: arguments, command.directory, environment⟩] := by
  rw [execute_of_found host environment tokens absent found]
  exact Invocation.starts_of_clean ⟨name, arguments⟩ _ clean (Session.has_of_findProgram found)

/-- A program that is started: only its interrupt leaves the shell. -/
theorem governs_of_clean (clean : ¬HoldNul arguments) :
    command.Governs host environment
      ((command.session environment).execute host command.line) := by
  have looked := program?_of_absent host environment tokens absent
  have departs := departure?_of_absent host environment tokens absent
  have still := session_of_absent host environment tokens absent
  rw [found, Option.map_some] at looked
  simp only [looked, if_neg clean] at departs
  have started : ((command.session environment).execute host command.line).starts =
      (command.start? host environment).toList := by
    rw [starts_of_found host environment tokens absent found clean]
    simp only [start?, looked, if_neg clean]
    rfl
  have ended := Invocation.outcome_of_clean ⟨name, arguments⟩ (command.session environment) clean
    (Session.has_of_findProgram found)
  rw [directory_session, environment_session] at ended
  rw [execute_of_found host environment tokens absent found] at started ⊢
  cases launched : host.launch command.directory environment path with
  | interrupted =>
    rw [launched] at departs ended
    exact .of_departure still.symm started departs (by simp only [ended]; rfl)
  | failed error =>
    rw [launched] at departs ended
    exact .of_stay still.symm started departs ⟨1, by simp only [ended]; rfl⟩
  | ended output status =>
    rw [launched] at departs ended
    exact .of_stay still.symm started departs ⟨shellStatus status, by simp only [ended]; rfl⟩

end Found

theorem governs_of_program :
    command.Governs host environment
      ((command.session environment).execute host command.line) := by
  cases search : (command.session environment).findProgram host name with
  | none => exact governs_of_missing host environment tokens absent search
  | some path =>
    by_cases nul : HoldNul arguments
    · exact governs_of_nul host environment tokens absent search nul
    · exact governs_of_clean host environment tokens absent search nul

end Program

end Tokens

/-- Every line does what its command says. -/
theorem execute_governs (host : Host) (environment : Environment) (command : Command) :
    command.Governs host environment
      ((command.session environment).execute host command.line) := by
  cases tokens : Tokens.ofLine command.line with
  | nil =>
    have stays : command.departure? host environment = none := by
      simp [departure?, program?, tokens]
    have still :
        command.session environment = .stocked (command.next host environment) environment := by
      rw [next, moved?, tokens]
      rfl
    rw [execute_of_head host environment (by simp [tokens]), tokens, Session.dispatch]
    refine .of_stay still ?_ stays ⟨0, rfl⟩
    simp only [start?, program?, tokens]
    rfl
  | cons name arguments =>
    rcases Registry.stock_cases name with ⟨rfl, found⟩ | ⟨rfl, found⟩ | ⟨leaves, -⟩ | ⟨rfl, found⟩ |
      ⟨rfl, found⟩ | ⟨absent, -⟩
    · have steady := enter_steady tokens host environment rfl
      exact governs_of_builtin tokens (by decide) found (by decide) steady
    · have still := session_of_not_cd tokens host environment (by decide)
      exact governs_of_builtin tokens (by decide) found (by decide) (still ▸ .of_value rfl 0)
    · exact governs_of_exit tokens leaves
    · have still := session_of_not_cd tokens host environment (by decide)
      exact governs_of_builtin tokens (by decide) found (by decide)
        (still ▸ printDirectory_steady (command.session environment))
    · have still := session_of_not_cd tokens host environment (by decide)
      exact governs_of_builtin tokens (by decide) found (by decide)
        (still ▸ describe_steady host (command.session environment) arguments)
    · exact governs_of_program host environment tokens absent

end Command

end PlainShell
