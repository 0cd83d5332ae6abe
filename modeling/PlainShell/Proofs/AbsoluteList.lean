import PlainShell.Proofs.Isolation
import PlainShell.Proofs.Observation
import PlainShell.Proofs.SearchList

/-!
A search list of absolute directories. Where such a directory has a name is told without the working
directory, so a name is found at the same path from everywhere. However a session moves, each of its
searches for a name comes to the same, and the lines alone tell which programs are started.
-/

namespace PlainShell

namespace SearchPath

variable {entries : List Text} (absolute : ∀ entry ∈ entries, Path.isAbsolute entry = true)
include absolute

/-- The first of the entries that has the name, wherever the search begins. -/
theorem search_of_absolute (host : Host) (working : Option Text) (name : Text) :
    search host working entries name = (entries.map (place · name)).find? host.has := by
  rw [search]
  congr 1
  apply List.map_congr_left
  intro entry member
  cases working with
  | none => rfl
  | some base => exact candidate_of_absolute (absolute entry member) base name

end SearchPath

theorem Session.findProgram_of_absolute {session : Session}
    (absolute : ∀ entry ∈ SearchPath.directories session.environment, Path.isAbsolute entry = true)
    (host : Host) (name : Text) :
    session.findProgram host name =
      ((SearchPath.directories session.environment).map (SearchPath.place · name)).find? host.has :=
  SearchPath.search_of_absolute absolute host session.directory name

/-! What a run tells of its searches. -/

/-- The name that was searched for, and the path at which it was found, if it was. -/
def Event.search? : Event → Option (Text × Option Text)
  | .note (.resolved name path) => some (name, some path)
  | .note (.notResolved name _) => some (name, none)
  | _ => none

def Run.searches {α : Type} (run : Run α) : List (Text × Option Text) :=
  run.events.filterMap Event.search?

theorem overlooks_search? : Overlooks Event.search? :=
  ⟨fun _ => rfl, rfl, rfl, fun _ _ => rfl, fun _ => rfl⟩

theorem Event.search?_of_ofProgram {event : Event} (told : event.ofProgram = true) :
    event.search? = none := by
  cases event with
  | note value => cases value <;> first | rfl | simp [ofProgram] at told
  | _ => rfl

/-- The searches that the events tell of are searches of the session. -/
def ReportsSearches (host : Host) (session : Session) (events : List Event) : Prop :=
  ∀ found ∈ events.filterMap Event.search?, session.findProgram host found.1 = found.2

section ReportsSearches

variable {host : Host} {session : Session}

theorem ReportsSearches.of_none {events : List Event} (none : events.filterMap Event.search? = []) :
    ReportsSearches host session events := by
  simp [ReportsSearches, none]

theorem ReportsSearches.append {earlier later : List Event}
    (first : ReportsSearches host session earlier)
    (second : ReportsSearches host session later) :
    ReportsSearches host session (earlier ++ later) := by
  rw [ReportsSearches, List.filterMap_append, List.forall_mem_append]
  exact ⟨first, second⟩

theorem ReportsSearches.append_none {earlier : List Event}
    (first : ReportsSearches host session earlier)
    (later : List Event) (none : later.filterMap Event.search? = []) :
    ReportsSearches host session (earlier ++ later) :=
  first.append (.of_none none)

theorem Session.reportsSearches_searchNote (session : Session) (host : Host) (name : Text) :
    ReportsSearches host session [.note (session.searchNote host name)] := by
  rw [searchNote]
  cases search : session.findProgram host name with
  | none => simp [ReportsSearches, Event.search?, search]
  | some path => simp [ReportsSearches, Event.search?, search]

theorem Handler.reportsSearches_run (handler : Handler) (host : Host) (session : Session)
    (arguments : List Text) :
    ReportsSearches host session (handler.run host session arguments).events := by
  cases handler with
  | echo => exact .of_none rfl
  | exit => exact .of_none rfl
  | pwd =>
    simp only [run, Session.printDirectory]
    split <;> exact .of_none rfl
  | cd =>
    simp only [run, Session.enter]
    split
    · exact .of_none rfl
    · split <;> exact .of_none rfl
  | script lines ending =>
    refine .of_none (List.filterMap_eq_nil_iff.mpr fun event member => ?_)
    obtain ⟨line, -, rfl⟩ := List.mem_map.mp member
    rfl
  | type =>
    simp only [run, Session.describe]
    split
    · exact .of_none rfl
    · next name rest =>
      have noted := session.reportsSearches_searchNote host name
      split
      · exact .of_none rfl
      · split <;> exact noted.append_none [_] rfl

theorem Invocation.reportsSearches_perform (invocation : Invocation) (host : Host)
    (handler : Handler) (session : Session) :
    ReportsSearches host session (invocation.perform host (some handler) session).events := by
  have own := handler.reportsSearches_run host session invocation.arguments
  simp only [perform, attempt]
  split
  · exact own.append_none _ rfl
  · exact own.append_none _ rfl
  · exact own

theorem Invocation.reportsSearches_launch (invocation : Invocation) (host : Host)
    (session : Session) (path : Text) :
    ReportsSearches host session (invocation.launch host session path).events :=
  .of_none (List.filterMap_eq_nil_iff.mpr fun event member =>
    Event.search?_of_ofProgram (invocation.ofProgram_launch host session path event member))

/-- A line tells of no searches but its own. -/
theorem Session.reportsSearches_execute (session : Session) (host : Host) (line : Text) :
    ReportsSearches host session (session.execute host line).events := by
  unfold execute
  split
  · exact .of_none rfl
  · cases Tokens.ofLine line with
    | nil => exact .of_none rfl
    | cons name arguments =>
      have noted := session.reportsSearches_searchNote host name
      cases table : session.builtins.get? name with
      | some handler =>
        rw [dispatch_builtin table]
        exact ReportsSearches.append (.of_none rfl)
          (Invocation.reportsSearches_perform _ host handler session)
      | none =>
        rw [searchNote] at noted
        cases search : session.findProgram host name with
        | some path =>
          rw [dispatch_program table search]
          rw [search] at noted
          exact noted.append (Invocation.reportsSearches_launch _ host session path)
        | none =>
          rw [dispatch_nothing table search]
          rw [search] at noted
          exact noted.append_none [_, _, _] rfl

end ReportsSearches

/-! What the executed lines of a run ask for. -/

/-- What is searched for in the loop is searched for by one of the executed lines, from where that
line finds the session. -/
theorem command_of_search (host : Host) (environment : Environment) (directory : Option Text)
    (prompt : Text) (input : Input) {name : Text} {answer : Option Text}
    (told : (name, answer) ∈
      ((Session.start host environment directory).loop host prompt input).searches) :
    ∃ command ∈ executedCommands host environment (directory.or host.directory) input.lines,
      (command.session environment).findProgram host name = answer := by
  rw [Run.searches, overlooks_search?.loop, List.mem_flatMap] at told
  obtain ⟨command, visited, here⟩ := told
  exact ⟨command, visited, Session.reportsSearches_execute _ host command.line _ here⟩

/-- The words of the start that a line asks for, when programs are found where the choice says. -/
def commanded (choice : Text → Option Text) (line : Text) : Option (List Text) :=
  match Tokens.ofLine line with
  | [] => none
  | name :: arguments =>
    if (Registry.stock.get? name).isSome ∨ HoldNul arguments then none
    else (choice name).map (· :: arguments)

theorem Command.argv_start? (host : Host) (environment : Environment) (command : Command) :
    (command.start? host environment).map Start.argv =
      commanded ((command.session environment).findProgram host) command.line := by
  rw [commanded]
  cases tokens : Tokens.ofLine command.line with
  | nil => simp [start?, program?, tokens]
  | cons name arguments =>
    have stocked : (Registry.stock.get? name).isSome = true ↔ name ∈ Registry.stock.names :=
      Session.isBuiltin_stocked none environment name
    by_cases stock : name ∈ Registry.stock.names
    · rw [start?_of_stock tokens stock]
      simp [stocked, stock]
    · simp only [start?, program?_of_absent host environment tokens stock, stocked, stock,
        false_or]
      cases (command.session environment).findProgram host name with
      | none => simp
      | some path => by_cases nul : HoldNul arguments <;> simp [nul]

theorem argv_starts_loop (host : Host) (environment : Environment) (directory : Option Text)
    (prompt : Text) (input : Input) :
    ((Session.start host environment directory).loop host prompt input).starts.map Start.argv =
      (executedCommands host environment (directory.or host.directory) input.lines).filterMap
        fun command =>
          commanded ((command.session environment).findProgram host) command.line := by
  have asked := (consume_executedCommands host environment prompt input.ending
    (directory.or host.directory) input.lines).1
  rw [Session.loop_eq_consume]
  refine (congrArg (List.map Start.argv) asked).trans ?_
  rw [List.map_filterMap]
  exact List.filterMap_congr fun command _ => command.argv_start? host environment

/-- With a search list of absolute directories a name is found at one path or nowhere, from every
directory, known or not. So in the whole of a run, whatever lines have come before, a name is found
where it was found at first. Each search that the run tells of has that answer, and the executed
lines start what they start by it. -/
theorem absolute_list_finds_alike (host : Host) {environment : Environment}
    (absolute : ∀ entry ∈ SearchPath.directories environment, Path.isAbsolute entry = true) :
    (∀ first second : Session, first.environment = environment → second.environment = environment →
      ∀ name, first.findProgram host name = second.findProgram host name) ∧
    ∀ (directory : Option Text) (prompt : Text) (input : Input),
      let start := Session.start host environment directory
      let run := start.loop host prompt input
      let visited := executedCommands host environment (directory.or host.directory) input.lines
      (∀ lines name,
        (start.afterLines host lines).findProgram host name = start.findProgram host name) ∧
      (∀ name answer, (name, answer) ∈ run.searches → answer = start.findProgram host name) ∧
      run.starts.map Start.argv =
        (visited.map Command.line).filterMap (commanded (start.findProgram host)) := by
  have alike : ∀ first second : Session, first.environment = environment →
      second.environment = environment →
      ∀ name, first.findProgram host name = second.findProgram host name := by
    intro first second here there name
    rw [Session.findProgram_of_absolute (here ▸ absolute),
      Session.findProgram_of_absolute (there ▸ absolute), here, there]
  refine ⟨alike, ?_⟩
  intro directory prompt input start run visited
  refine ⟨?_, ?_, ?_⟩
  · intro lines name
    obtain ⟨reached, left⟩ :=
      afterLines_stocked host environment (directory.or host.directory) lines
    exact alike _ start (congrArg Session.environment left) rfl name
  · intro name answer told
    obtain ⟨command, -, found⟩ := command_of_search host environment directory prompt input told
    rw [← found]
    exact alike _ start rfl rfl name
  · have same : ∀ command : Command,
        (command.session environment).findProgram host = start.findProgram host :=
      fun command => funext (alike _ start rfl rfl)
    rw [List.filterMap_map]
    refine (argv_starts_loop host environment directory prompt input).trans ?_
    exact List.filterMap_congr fun command _ => congrArg (commanded · command.line) (same command)

/-- A name that leads up out of its directory, searched for before and after a move. -/
theorem absolute_list_finds_alike_at_srv :
    let host := (Host.empty none).furnish
      [("/bin/p", .file (.ends [] 0)), ("/srv/bin", .directory true)]
    let environment : Environment := Table.ofList [("PATH", "/sbin/x:/srv")]
    let start := Session.start host environment none
    let input := Input.ofBytes (Utf8.encode "../bin/p\ncd /srv\n../bin/p x\n") .exhausted
    (∀ entry ∈ SearchPath.directories environment, Path.isAbsolute entry = true) ∧
      start.findProgram host "../bin/p" = some ("/bin/p" : Text) ∧
      (start.afterLines host ["cd /srv"]).findProgram host "../bin/p" = some ("/bin/p" : Text) ∧
      (start.loop host "$ " input).starts.map Start.argv =
        ([["/bin/p"], ["/bin/p", "x"]] : List (List Text)) := by
  intro host environment start input
  have absolute : ∀ entry ∈ SearchPath.directories environment,
      Path.isAbsolute entry = true := by decide
  have found : start.findProgram host "../bin/p" = some ("/bin/p" : Text) := by decide
  obtain ⟨-, runs⟩ := absolute_list_finds_alike host absolute
  obtain ⟨steady, -, started⟩ := runs none "$ " input
  refine ⟨absolute, found, (steady ["cd /srv"] "../bin/p").trans found, started.trans ?_⟩
  decide

end PlainShell
