import PlainShell.Proofs.Command

/-!
What a failed line is answered with. A line that stays in the shell has failed exactly when there is
a complaint to make. The complaint is put out as one line, and its status is the status of the line.
-/

namespace PlainShell

/-- One line for the user and the status that goes with it. -/
structure Complaint where
  message : Text
  status : Int
  deriving DecidableEq, Repr

namespace Complaint

def ofError (error : ShellError) : Complaint := ⟨error.message, error.code⟩

@[simp] theorem message_ofError (error : ShellError) :
    (ofError error).message = error.message := rfl

@[simp] theorem status_ofError (error : ShellError) : (ofError error).status = error.code := rfl

end Complaint

namespace Command

variable (host : Host) (environment : Environment) (command : Command)

/-- A `cd` to a directory that cannot be entered. -/
def entryComplaint? (arguments : List Text) : Option Complaint :=
  match arguments with
  | [] => none
  | argument :: _ =>
    match command.goal? host environment argument with
    | some _ => none
    | none => some (.ofError (goalError host environment argument))

/-- A `pwd` in a directory that is not known. -/
def placeComplaint? : Option Complaint :=
  match command.directory with
  | some _ => none
  | none => some (.ofError (.directoryUnknown none))

/-- A `type` of a name that stands for nothing. -/
def nameComplaint? (arguments : List Text) : Option Complaint :=
  match arguments with
  | [] => none
  | argument :: _ =>
    if (command.session environment).isBuiltin argument then none
    else
      match (command.session environment).findProgram host argument with
      | some _ => none
      | none => some ⟨argument ++ ": not found", 1⟩

/-- A program that cannot be started, or one that ends without success. -/
def programComplaint? (name path : Text) : Option Complaint :=
  match host.launch command.directory environment path with
  | .failed error => some (.ofError (.externalProgram name error.message 1))
  | .interrupted => none
  | .ended _ status =>
    if status = 0 then none
    else some (.ofError (.externalProgram name (describeExit status) (shellStatus status)))

/-- The answer to the line if it fails. A line that leaves the shell has none. -/
def complaint? : Option Complaint :=
  match command.departure? host environment, Tokens.ofLine command.line with
  | some _, _ | none, [] => none
  | none, name :: arguments =>
    if name = "cd" then command.entryComplaint? host environment arguments
    else if name = "pwd" then command.placeComplaint?
    else if name = "type" then command.nameComplaint? host environment arguments
    else if (command.session environment).isBuiltin name then none
    else
      match (command.session environment).findProgram host name with
      | none => some (.ofError (.commandNotFound command.line))
      | some path => command.programComplaint? host environment name path

end Command

theorem shellStatus_eq_zero_iff (status : Int) : shellStatus status = 0 ↔ status = 0 := by
  unfold shellStatus
  split <;> omega

/-- The run fails with the complaint, or succeeds when there is none. -/
structure Answers (run : Run Int) (complaint? : Option Complaint) : Prop where
  status : run.outcome = .ok ((complaint?.map Complaint.status).getD 0)
  failed : ∀ complaint ∈ complaint?, complaint.status ≠ 0
  said : ∀ complaint ∈ complaint?, Event.line complaint.message ∈ run.events

namespace Answers

variable {run : Run Int}

theorem of_success (succeeded : run.outcome = .ok 0) : Answers run none :=
  ⟨succeeded, by simp, by simp⟩

theorem of_failure {complaint : Complaint} (failed : run.outcome = .ok complaint.status)
    (status : complaint.status ≠ 0) (said : Event.line complaint.message ∈ run.events) :
    Answers run (some complaint) :=
  ⟨failed, by simpa using status, by simpa using said⟩

theorem of_report {session : Session} {error : ShellError} (status : error.code ≠ 0) :
    Answers (session.report error) (some (.ofError error)) :=
  of_failure rfl status (List.mem_singleton_self _)

end Answers

namespace Command

variable {host : Host} {environment : Environment}

theorem departure?_of_complaint {command : Command} {complaint : Complaint}
    (made : command.complaint? host environment = some complaint) :
    command.departure? host environment = none := by
  cases departs : command.departure? host environment with
  | none => rfl
  | some cause => simp [complaint?, departs] at made

/-- Of a name that is no builtin the search is complained of, or the program that it finds. -/
theorem complaint?_of_absent {command : Command} {name : Text} {arguments : List Text}
    (tokens : Tokens.ofLine command.line = name :: arguments)
    (absent : name ∉ Registry.stock.names)
    (stays : command.departure? host environment = none) :
    command.complaint? host environment =
      match (command.session environment).findProgram host name with
      | none => some (.ofError (.commandNotFound command.line))
      | some path => command.programComplaint? host environment name path := by
  have notCd : name ≠ "cd" := (ne_of_mem_of_not_mem (by decide) absent).symm
  have notPwd : name ≠ "pwd" := (ne_of_mem_of_not_mem (by decide) absent).symm
  have notType : name ≠ "type" := (ne_of_mem_of_not_mem (by decide) absent).symm
  have foreign : ¬(command.session environment).isBuiltin name = true :=
    mt (Session.isBuiltin_stocked ..).mp absent
  simp only [complaint?, stays, tokens, if_neg notCd, if_neg notPwd, if_neg notType, if_neg foreign]

theorem goalError_code (argument : Text) : (goalError host environment argument).code = 1 := by
  unfold goalError
  split
  · split <;> rfl
  · rfl

theorem enter_answers (host : Host) (environment : Environment) (command : Command)
    (arguments : List Text) :
    Answers ((command.session environment).enter host arguments)
      (command.entryComplaint? host environment arguments) := by
  cases arguments with
  | nil => exact .of_success rfl
  | cons argument rest =>
    simp only [Session.enter, goal_eq, entryComplaint?]
    cases command.goal? host environment argument with
    | some directory => exact .of_success rfl
    | none => exact .of_report (by rw [goalError_code]; decide)

theorem printDirectory_answers (environment : Environment) (command : Command) :
    Answers (command.session environment).printDirectory command.placeComplaint? := by
  obtain ⟨directory, line⟩ := command
  cases directory with
  | some directory => exact .of_success rfl
  | none => exact .of_report (by decide)

theorem describe_answers (host : Host) (environment : Environment) (command : Command)
    (arguments : List Text) :
    Answers ((command.session environment).describe host arguments)
      (command.nameComplaint? host environment arguments) := by
  cases arguments with
  | nil => exact .of_success rfl
  | cons name rest =>
    -- Only the first argument is looked at.
    change Answers ((command.session environment).describe host [name]) _
    cases table : (command.session environment).builtins.get? name with
    | some handler =>
      rw [Session.describe_builtin table, nameComplaint?, Session.isBuiltin, table]
      exact .of_success rfl
    | none =>
      rw [nameComplaint?, Session.isBuiltin, table]
      cases search : (command.session environment).findProgram host name with
      | some path =>
        rw [Session.describe_program table search]
        exact .of_success rfl
      | none =>
        rw [Session.describe_nothing table search]
        exact .of_failure rfl (by simp) (by simp [Run.value])

/-- A program that is started and comes back. -/
theorem launch_answers (host : Host) (environment : Environment) (command : Command)
    (invocation : Invocation) {path : Text} (clean : ¬HoldNul invocation.arguments)
    (present : host.has path = true)
    (ends : host.launch command.directory environment path ≠ .interrupted) :
    let run := invocation.launch host (command.session environment) path
    Answers ⟨run.events, run.session, run.outcome.map (·.getD 0)⟩
      (command.programComplaint? host environment invocation.name path) := by
  have whole := Invocation.launch_of_clean invocation (command.session environment) clean present
  rw [directory_session, environment_session] at whole
  simp only [whole, programComplaint?]
  cases launched : host.launch command.directory environment path with
  | interrupted => exact absurd launched ends
  | failed error => exact .of_failure rfl (by simp [ShellError.code]) (by simp [Run.value])
  | ended output status =>
    by_cases success : status = 0
    · subst success
      exact .of_success rfl
    · have failure : shellStatus status ≠ 0 := mt (shellStatus_eq_zero_iff status).mp success
      simp only [if_neg success]
      exact .of_failure rfl failure (by simp [Invocation.conclude, Run.value, failure])

/-- A builtin that answers still does so when its output has been pushed on. -/
theorem performed_answers {command : Command} {name : Text} {arguments : List Text}
    (tokens : Tokens.ofLine command.line = name :: arguments) (other : name ≠ Session.exitWord)
    {handler : Handler} (found : Registry.stock.get? name = some handler)
    {complaint? : Option Complaint}
    (answers : Answers (handler.run host (command.session environment) arguments) complaint?) :
    Answers ((command.session environment).execute host command.line) complaint? := by
  rw [execute_of_ne tokens host environment other, Session.dispatch_builtin found,
    perform_of_ok answers.status]
  refine ⟨rfl, answers.failed, ?_⟩
  intro complaint made
  simp [answers.said complaint made]

/-- A line that finds a program and stays in the shell starts it, and it comes to an end. -/
theorem launches_of_stay {command : Command} {name path : Text} {arguments : List Text}
    (tokens : Tokens.ofLine command.line = name :: arguments)
    (absent : name ∉ Registry.stock.names)
    (found : (command.session environment).findProgram host name = some path)
    (stays : command.departure? host environment = none) :
    ¬HoldNul arguments ∧ host.launch command.directory environment path ≠ .interrupted := by
  have departs := departure?_of_absent host environment tokens absent
  rw [program?_of_absent host environment tokens absent, stays, found, Option.map_some] at departs
  have clean : ¬HoldNul arguments := by
    intro nul
    simp [nul] at departs
  refine ⟨clean, fun launched => ?_⟩
  simp [clean, launched] at departs

/-- A name that is no builtin is refused, or its program answers. -/
theorem program_answers {command : Command} {name : Text} {arguments : List Text}
    (tokens : Tokens.ofLine command.line = name :: arguments)
    (absent : name ∉ Registry.stock.names)
    (stays : command.departure? host environment = none) :
    Answers ((command.session environment).execute host command.line)
      (match (command.session environment).findProgram host name with
        | none => some (.ofError (.commandNotFound command.line))
        | some path => command.programComplaint? host environment name path) := by
  cases search : (command.session environment).findProgram host name with
  | none =>
    rw [execute_of_missing host environment tokens absent search]
    exact .of_failure rfl (by simp [ShellError.code]) (by simp [Run.value])
  | some path =>
    obtain ⟨clean, ends⟩ := launches_of_stay tokens absent search stays
    have answers := launch_answers host environment command ⟨name, arguments⟩ clean
      (Session.has_of_findProgram search) ends
    rw [execute_of_found host environment tokens absent search]
    refine ⟨answers.status, answers.failed, ?_⟩
    intro complaint made
    exact List.mem_cons_of_mem _ (answers.said complaint made)

/-- A line that stays in the shell is answered with its complaint, or succeeds. -/
theorem execute_answers {command : Command}
    (stays : command.departure? host environment = none) :
    Answers ((command.session environment).execute host command.line)
      (command.complaint? host environment) := by
  rw [complaint?, stays]
  cases tokens : Tokens.ofLine command.line with
  | nil =>
    rw [execute_of_head host environment (by simp [tokens]), tokens]
    exact .of_success rfl
  | cons name arguments =>
    rcases Registry.stock_cases name with ⟨rfl, found⟩ | ⟨rfl, found⟩ | ⟨rfl, -⟩ | ⟨rfl, found⟩ |
      ⟨rfl, found⟩ | ⟨absent, table⟩
    · exact performed_answers tokens (by decide) found
        (enter_answers host environment command arguments)
    · exact performed_answers tokens (by decide) found (.of_success rfl)
    · simp [departure?, tokens] at stays
    · exact performed_answers tokens (by decide) found (printDirectory_answers environment command)
    · exact performed_answers tokens (by decide) found
        (describe_answers host environment command arguments)
    · have made := complaint?_of_absent tokens absent stays
      rw [complaint?, stays, tokens] at made
      rw [made]
      exact program_answers tokens absent stays

end Command

end PlainShell
