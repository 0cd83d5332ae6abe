import PlainShell.Proofs.DirectoryEffect
import PlainShell.Proofs.Launching
import PlainShell.Proofs.StartEvents

/-!
A session that begins where programs can be started stays in such places: `cd` asks of a directory
just what a start asks of it. So on a machine that does not change, a start is never refused because
of the directory, and a failure that is reported tells of the program.
-/

namespace PlainShell

/-- A change of directory leads to where programs can be started. -/
theorem DirectoryEffect.admits {host : Host} {session : Session} {left : Option Text}
    {moves : List Text} (effect : DirectoryEffect host session left moves)
    (admits : host.Admits session.directory) : host.Admits left := by
  cases effect with
  | stays kept silent =>
    rw [kept]
    exact admits
  | goes reached there told =>
    intro known same
    obtain rfl := Option.some.inj (there.symm.trans same)
    exact (Session.destination_eq_ok_iff.mp reached).2

namespace Session

variable {session : Session} {host : Host}

theorem admits_afterLines (admits : host.Admits session.directory) (lines : List Text) :
    host.Admits (session.afterLines host lines).directory := by
  induction lines generalizing session with
  | nil => exact admits
  | cons line rest ih => exact ih ((session.execute_directoryEffect host line).admits admits)

/-- The session at the end of the loop is the one that the executed lines have left. -/
theorem session_loop (session : Session) (host : Host) (prompt : Text) (input : Input) :
    ∃ executed, executed <+: input.lines ∧
      (session.loop host prompt input).session = session.afterLines host executed := by
  rcases session.returns_or_departs host input.lines with
    all | ⟨before, line, later, cause, split, returned, departed⟩
  · have whole := session.account_of_returns host prompt input all
    exact ⟨input.lines, List.prefix_rfl, congrArg Account.session whole⟩
  · have whole := session.account_of_departure host prompt input split returned departed
    exact ⟨before ++ [line], ⟨later, by rw [split]; simp⟩, congrArg Account.session whole⟩

end Session

/-! Starts that fail. -/

/-- A program and the reason why it was not started, as they are noted. -/
def Event.failure? : Event → Option (Text × Text)
  | .note (.startFailed path reason) => some (path, reason)
  | _ => none

theorem overlooks_failure? : Overlooks Event.failure? :=
  ⟨fun _ => rfl, rfl, rfl, fun _ _ => rfl, fun _ => rfl⟩

theorem failure?_of_not_ofStart {event : Event} (told : event.ofStart = false) :
    event.failure? = none := by
  cases event with
  | note value =>
    cases value with
    | startFailed path reason => simp [Event.ofStart] at told
    | _ => rfl
  | text value | bytes value | flush | read | start record => rfl

theorem Launch.failures_resultEvents (path : Text) (launch : Launch) :
    (launch.resultEvents path).filterMap Event.failure? =
      match launch with
      | .failed error => [(path, error.message)]
      | .interrupted | .ended .. => [] := by
  cases launch with
  | failed error => rfl
  | interrupted => rfl
  | ended output status =>
    by_cases silent : output = [] <;> simp only [resultEvents, silent, ↓reduceIte] <;> rfl

namespace Command

/-- The program that the line asks to be started in vain, and the error of the system. -/
def failure? (host : Host) (environment : Environment) (command : Command) :
    Option (Text × SystemError) :=
  match command.start? host environment with
  | some ⟨path :: _, directory, given⟩ =>
    match host.launch directory given path with
    | .failed error => some (path, error)
    | .interrupted | .ended .. => none
  | _ => none

variable {host : Host} {environment : Environment} {command : Command}

theorem failure?_of_start {path : Text} {arguments : List Text}
    (asked : command.start? host environment =
      some ⟨path :: arguments, command.directory, environment⟩) :
    command.failure? host environment =
      match host.launch command.directory environment path with
      | .failed error => some (path, error)
      | .interrupted | .ended .. => none := by
  simp only [failure?, asked]

/-- The failed starts that the line reports: the one that it asks for, if it fails. -/
theorem failures_execute (host : Host) (environment : Environment) (command : Command) :
    ((command.session environment).execute host command.line).events.filterMap Event.failure? =
      ((command.failure? host environment).map fun failure =>
        (failure.1, failure.2.message)).toList := by
  rw [← filterMap_ofStart fun _ => failure?_of_not_ofStart, filter_execute]
  cases asked : command.start? host environment with
  | none =>
    rw [failure?, asked]
    rfl
  | some record =>
    obtain ⟨name, arguments, path, -, -, -, -, rfl⟩ := (start?_eq_some_iff command record).mp asked
    rw [failure?_of_start asked, Option.toList_some, List.flatMap_singleton, Start.resultEvents,
      Launch.failures_resultEvents]
    cases host.launch command.directory environment path <;> rfl

/-- A start that fails is answered with one line, which has the words of the system. -/
theorem written_of_failure {path : Text} {error : SystemError}
    (failed : command.failure? host environment = some (path, error)) :
    host.launch command.directory environment path = .failed error ∧
      ∃ name arguments, Tokens.ofLine command.line = name :: arguments ∧
        ((command.session environment).execute host command.line).written =
          Utf8.encode ("Error running external program " ++ name ++ ":" ++ error.message ++
            "\n") := by
  cases asked : command.start? host environment with
  | none => simp [failure?, asked] at failed
  | some record =>
    obtain ⟨name, arguments, found, tokens, absent, search, clean, rfl⟩ :=
      (start?_eq_some_iff command record).mp asked
    rw [failure?_of_start asked] at failed
    split at failed
    · next launched =>
      obtain ⟨rfl, rfl⟩ := Prod.mk.inj (Option.some.inj failed)
      refine ⟨launched, name, arguments, tokens, ?_⟩
      have whole := Invocation.launch_of_clean ⟨name, arguments⟩ (command.session environment)
        (not_holdNul_iff.mpr clean) (Session.has_of_findProgram search)
      rw [directory_session, environment_session, launched] at whole
      rw [execute_of_found host environment tokens absent search, whole, Run.written_eq_octets]
      simp [Run.value, Invocation.announcement, Event.octets, Event.line, ShellError.message]
    · simp at failed
    · simp at failed

end Command

/-- From a place where programs can be started, the loop comes to such places only. No start in it
is refused because of its directory, and each failure that it reports is the fault of the program:
where the start looks it is missing, a directory, not to be run, or it fails in its own way. -/
theorem starts_fail_by_program (host : Host) (environment : Environment) (directory : Option Text)
    (prompt : Text) (input : Input) (admits : host.Admits (directory.or host.directory)) :
    let start := Session.start host environment directory
    let run := start.loop host prompt input
    let visited := executedCommands host environment (directory.or host.directory) input.lines
    (∀ before, before <+: input.lines → host.Admits (start.afterLines host before).directory) ∧
    host.Admits run.session.directory ∧
    (∀ record ∈ run.starts, record.directory.bind host.directoryFault = none) ∧
    run.events.filterMap Event.failure? =
      (visited.filterMap (Command.failure? host environment)).map
        (fun failure => (failure.1, failure.2.message)) ∧
    (∀ command ∈ visited, ∀ path error,
      command.failure? host environment = some (path, error) →
        host.ProgramFault command.directory environment path error ∧
        ∃ name arguments, Tokens.ofLine command.line = name :: arguments ∧
          ((command.session environment).execute host command.line).written =
            Utf8.encode ("Error running external program " ++ name ++ ":" ++ error.message ++
              "\n")) := by
  intro start run visited
  have everywhere (before : List Text) : host.Admits (start.afterLines host before).directory :=
    Session.admits_afterLines admits before
  have admitted : ∀ command ∈ visited, host.Admits command.directory := by
    intro command member
    obtain ⟨before, later, whole⟩ := List.append_of_mem member
    obtain ⟨-, -, -, left, -, -⟩ := executedCommands_split whole
    have reached : command.directory =
        (start.afterLines host (before.map Command.line)).directory :=
      congrArg Session.directory left
    rw [reached]
    exact everywhere _
  refine ⟨fun before _ => everywhere before, ?_, ?_, ?_, ?_⟩
  · obtain ⟨executed, -, left⟩ := start.session_loop host prompt input
    change host.Admits (start.loop host prompt input).session.directory
    rw [left]
    exact everywhere executed
  · intro record member
    have asked : run.starts = visited.filterMap (Command.start? host environment) := by
      change (Session.loop _ host prompt input).starts = _
      rw [Session.loop_eq_consume]
      exact (consume_executedCommands host environment prompt input.ending _ input.lines).1
    rw [asked] at member
    obtain ⟨command, executed, found⟩ := List.mem_filterMap.mp member
    obtain ⟨name, arguments, path, -, -, -, -, rfl⟩ :=
      (Command.start?_eq_some_iff command _).mp found
    exact (admitted command executed).fault_eq_none
  · change (Session.loop _ host prompt input).events.filterMap _ = _
    rw [overlooks_failure?.loop, List.map_filterMap, List.filterMap_eq_flatMap_toList]
    exact List.flatMap_congr fun command _ => command.failures_execute host environment
  · intro command member path error failed
    obtain ⟨launched, report⟩ := Command.written_of_failure failed
    exact ⟨Host.programFault_of_launch (admitted command member).fault_eq_none launched, report⟩

/-- A directory that may not be worked in is not entered, and the starts after it fail by their
programs: one is looked for below the directory it was found in, the other may not be run. -/
theorem starts_fail_by_program_of_relative :
    let host := (((Host.empty (some "/w")).add "sub/bin/p" (.file (.ends [] 0))).add "/bin/q"
      (.file .denied)).add "/locked" (.directory false)
    let environment : Environment := Table.ofList [("PATH", "bin:/bin")]
    let input := Input.ofBytes (Utf8.encode "cd /locked\np\nq\n") .exhausted
    let run := (Session.start host environment (some "sub")).loop host "$ " input
    host.Admits (some "sub") ∧ host.Admits run.session.directory ∧
      run.events.filterMap Event.failure? =
        [(Text.ofString "sub/bin/p",
            Text.ofString "[Errno 2] No such file or directory: 'sub/bin/p'"),
          (Text.ofString "/bin/q", Text.ofString "[Errno 13] Permission denied: '/bin/q'")] := by
  intro host environment input run
  have admits : host.Admits (some "sub") := by
    intro known same
    obtain rfl := Option.some.inj same
    decide
  obtain ⟨-, last, -, reported, -⟩ :=
    starts_fail_by_program host environment (some "sub") "$ " input admits
  refine ⟨admits, last, reported.trans ?_⟩
  decide +kernel

end PlainShell
