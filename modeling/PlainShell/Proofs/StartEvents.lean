import PlainShell.Proofs.Observation

/-!
What comes of a start. A program that cannot be started is told of in the log; one that ends leaves
its output and a note of its end. Nothing but a start brings such events about, so those of a run
are told by its starts, one after another.
-/

namespace PlainShell

/-- What only a start can bring about. -/
def Event.ofStart : Event → Bool
  | .bytes _ | .note (.startFailed ..) | .note (.ended ..) => true
  | .text _ | .flush | .read | .start _ | .note _ => false

/-- What a start brings about by the way it goes. A program that puts out nothing is only noted to
have ended. -/
def Launch.resultEvents (path : Text) : Launch → List Event
  | .failed error => [.note (.startFailed path error.message)]
  | .interrupted => []
  | .ended output status =>
    (if output = [] then [] else [.bytes output]) ++ [.note (.ended path status)]

/-- The same of a start on a machine. -/
def Start.resultEvents (host : Host) (record : Start) : List Event :=
  match record.argv with
  | [] => []
  | path :: _ => (host.launch record.directory record.environment path).resultEvents path

theorem ofStart_of_ofBuiltin {event : Event} (builtin : event.ofBuiltin = true) :
    event.ofStart = false := by
  cases event with
  | note value => cases value <;> simp_all [Event.ofBuiltin, Event.ofStart]
  | bytes value => simp [Event.ofBuiltin] at builtin
  | text value | flush | read | start record => rfl

theorem filter_ofStart_of_builtin {events : List Event}
    (told : ∀ event ∈ events, event.ofBuiltin = true) : events.filter Event.ofStart = [] := by
  rw [List.filter_eq_nil_iff]
  intro event member
  simp [ofStart_of_ofBuiltin (told event member)]

theorem Invocation.filter_conclude (invocation : Invocation) (session : Session) (path : Text)
    (output : Bytes) (status : Int) :
    (invocation.conclude session path output status).events.filter Event.ofStart =
      (Launch.ended output status).resultEvents path := by
  by_cases silent : output = [] <;> by_cases success : shellStatus status = 0 <;>
    simp only [conclude, Launch.resultEvents, Run.value, silent, success, ↓reduceIte] <;> rfl

namespace Command

variable {host : Host} {environment : Environment} {command : Command}

section Tokens

variable {name : Text} {arguments : List Text}
  (tokens : Tokens.ofLine command.line = name :: arguments)
include tokens

theorem filter_of_stock (stock : name ∈ Registry.stock.names) :
    ((command.session environment).execute host command.line).events.filter Event.ofStart = [] := by
  by_cases first : Tokens.firstWord command.line = Session.exitWord
  · rw [Session.execute, if_pos first]
    rfl
  · cases table : Registry.stock.get? name with
    | none => exact absurd stock (Table.get?_eq_none_iff.mp table)
    | some handler =>
      have found : (command.session environment).builtins.get? name = some handler := table
      have quiet := filter_ofStart_of_builtin
        (Invocation.ofBuiltin_perform ⟨name, arguments⟩ host handler (command.session environment))
      rw [Session.execute, if_neg first, tokens, Session.dispatch_builtin found, Run.events_after,
        List.filter_append, quiet]
      rfl

theorem filter_of_found (absent : name ∉ Registry.stock.names) {path : Text}
    (found : (command.session environment).findProgram host name = some path) :
    ((command.session environment).execute host command.line).events.filter Event.ofStart =
      (command.start? host environment).toList.flatMap (Start.resultEvents host) := by
  rw [execute_of_found host environment tokens absent found, start?,
    program?_of_absent host environment tokens absent, found]
  by_cases nul : HoldNul arguments
  · simp only [Option.map_some, if_pos nul]
    rw [Invocation.launch_of_nul ⟨name, arguments⟩ host _ path nul]
    rfl
  · simp only [Option.map_some, if_neg nul, Option.toList_some, List.flatMap_singleton,
      Start.resultEvents]
    rw [Invocation.launch_of_clean ⟨name, arguments⟩ (command.session environment) nul
      (Session.has_of_findProgram found), directory_session, environment_session]
    cases host.launch command.directory environment path with
    | failed error => rfl
    | interrupted => rfl
    | ended output status =>
      exact Invocation.filter_conclude ⟨name, arguments⟩ _ path output status

end Tokens

/-- Of the events of a line, a start brings about those that come of it, and no other. -/
theorem filter_execute (host : Host) (environment : Environment) (command : Command) :
    ((command.session environment).execute host command.line).events.filter Event.ofStart =
      (command.start? host environment).toList.flatMap (Start.resultEvents host) := by
  cases tokens : Tokens.ofLine command.line with
  | nil =>
    have unasked : command.start? host environment = none := by simp [start?, program?, tokens]
    rw [execute_of_head host environment (by simp [tokens]), tokens, unasked]
    rfl
  | cons name arguments =>
    by_cases stock : name ∈ Registry.stock.names
    · rw [filter_of_stock tokens stock, start?_of_stock tokens stock]
      rfl
    · cases search : (command.session environment).findProgram host name with
      | none =>
        rw [execute_of_missing host environment tokens stock search, start?,
          program?_of_absent host environment tokens stock, search]
        rfl
      | some path => exact filter_of_found tokens stock search

end Command

theorem overlooks_ofStart : Overlooks (Option.guard Event.ofStart) :=
  ⟨fun _ => rfl, rfl, rfl, fun _ _ => rfl, fun _ => rfl⟩

/-- What the starts of the loop bring about: for each of them in turn what comes of it. -/
theorem filter_loop (host : Host) (environment : Environment) (directory : Option Text)
    (prompt : Text) (input : Input) :
    let run := (Session.start host environment directory).loop host prompt input
    run.events.filter Event.ofStart = run.starts.flatMap (Start.resultEvents host) := by
  intro run
  have asked : run.starts =
      (executedCommands host environment (directory.or host.directory) input.lines).filterMap
        (Command.start? host environment) := by
    change (Session.loop _ host prompt input).starts = _
    rw [Session.loop_eq_consume]
    exact (consume_executedCommands host environment prompt input.ending _ input.lines).1
  have seen := overlooks_ofStart.loop host environment prompt directory input
  rw [List.filterMap_eq_filter] at seen
  rw [seen, asked, List.filterMap_eq_flatMap_toList, List.flatMap_assoc]
  exact List.flatMap_congr fun command _ => command.filter_execute host environment

/-- An observer who sees nothing else needs nothing else. -/
theorem filterMap_ofStart {γ : Type} {observe : Event → Option γ}
    (blind : ∀ event, event.ofStart = false → observe event = none) (events : List Event) :
    (events.filter Event.ofStart).filterMap observe = events.filterMap observe := by
  rw [List.filterMap_filter]
  refine List.filterMap_congr fun event _ => ?_
  by_cases told : event.ofStart = true
  · rw [if_pos told]
  · rw [if_neg told, blind event (by simpa using told)]

/-- Such an observer sees in the loop what comes of the starts. -/
theorem filterMap_loop {γ : Type} {observe : Event → Option γ}
    (blind : ∀ event, event.ofStart = false → observe event = none) (host : Host)
    (environment : Environment) (directory : Option Text) (prompt : Text) (input : Input) :
    let run := (Session.start host environment directory).loop host prompt input
    run.events.filterMap observe =
      run.starts.flatMap fun record => (record.resultEvents host).filterMap observe := by
  intro run
  rw [← filterMap_ofStart blind, filter_loop, List.filterMap_flatMap]

end PlainShell
