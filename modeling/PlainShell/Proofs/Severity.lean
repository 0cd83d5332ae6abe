import PlainShell.Proofs.Given

/-!
The log level. The loop is entered without it, so it cannot touch anything but the log, and there it
is a filter: a severer level logs less of the same notes. Nothing but a start that fails is worth a
warning.
-/

namespace PlainShell

theorem Level.debug_least (level : Level) : Level.debug.severity ≤ level.severity := by
  cases level <;> decide

/-- The note of a start that fails. -/
def Start.failureNote? (host : Host) (record : Start) : Option Note :=
  match record.argv with
  | [] => none
  | path :: _ =>
    match host.launch record.directory record.environment path with
    | .failed error => some (.startFailed path error.message)
    | .interrupted | .ended .. => none

/-- What is noted, if it is severe enough for a warning. -/
def Event.warning? (event : Event) : Option Note :=
  event.note?.filter fun note => Level.warning.severity ≤ note.level.severity

theorem Event.warning?_of_not_ofStart {event : Event} (told : event.ofStart = false) :
    event.warning? = none := by
  cases event with
  | note value =>
    cases value with
    | startFailed path reason => simp [ofStart] at told
    | _ => rfl
  | text value | bytes value | flush | read | start record => rfl

theorem Start.warnings_resultEvents (host : Host) (record : Start) :
    (record.resultEvents host).filterMap Event.warning? = (record.failureNote? host).toList := by
  obtain ⟨argv, directory, environment⟩ := record
  cases argv with
  | nil => rfl
  | cons path arguments =>
    simp only [resultEvents, failureNote?]
    cases host.launch directory environment path with
    | failed error => rfl
    | interrupted => rfl
    | ended output status =>
      by_cases silent : output = [] <;> simp only [Launch.resultEvents, silent, ↓reduceIte] <;> rfl

/-- The warnings of the loop are the notes of the starts that fail, in their order. -/
theorem warnings_loop (host : Host) (environment : Environment) (directory : Option Text)
    (prompt : Text) (input : Input) :
    let run := (Session.start host environment directory).loop host prompt input
    (run.notes.filter fun note => Level.warning.severity ≤ note.level.severity) =
      run.starts.filterMap (Start.failureNote? host) := by
  intro run
  have warned : (run.notes.filter fun note => Level.warning.severity ≤ note.level.severity) =
      run.events.filterMap Event.warning? := List.filter_filterMap
  rw [warned, filterMap_loop fun _ => Event.warning?_of_not_ofStart,
    List.filterMap_eq_flatMap_toList]
  exact List.flatMap_congr fun record _ => record.warnings_resultEvents host

/-- Two runs that differ in nothing but the log level have the same result and the same output, and
start the same programs. What stands on the second channel is the log. Of two levels the severer one
logs those notes of the other that are severe enough, in their order; the other may always be debug,
the least of all. At the level of warnings the log tells of the starts that failed, one note for
each in their order, and of nothing else. -/
theorem log_level_only_filters {environment : Environment} {first second : List Given}
    {least other : Level} (acceptable : ∀ given ∈ first ++ second, given.Accepted)
    (prompt : Given.last .prompt first = Given.last .prompt second)
    (inForce : Given.levelInForce environment first = least.name)
    (otherwise : Given.levelInForce environment second = other.name) (host : Host) (input : Input) :
    let run := fun givens : List Given =>
      Program.run host environment (givens.flatMap Given.arguments) input
    ((run first).result = (run second).result ∧ (run first).stdout = (run second).stdout ∧
      (run first).starts = (run second).starts) ∧
    (run first).stderr = Quoted.spellStrays ((run first).logged.flatMap Note.line) ∧
    (other.severity ≤ least.severity → (run first).logged =
      (run second).logged.filter fun note => least.severity ≤ note.level.severity) ∧
    (least = .warning →
      (run first).logged = (run first).starts.filterMap (Start.failureNote? host)) := by
  intro run
  obtain ⟨accepted, others⟩ := List.forall_mem_append.mp acceptable
  set loop := (Session.start host environment none).loop host
    (Given.promptInForce environment first) input with loop_eq
  have here : run first = Program.conclude loop least.severity :=
    Program.run_of_entry (Given.entry?_of_accepted accepted inForce) host input
  have there : run second = Program.conclude loop other.severity := by
    have shown : Given.promptInForce environment second =
        Given.promptInForce environment first := by
      rw [Given.promptInForce, Given.promptInForce, prompt]
    rw [loop_eq, ← shown]
    exact Program.run_of_entry (Given.entry?_of_accepted others otherwise) host input
  have started : (run first).starts = loop.starts := by rw [here, Program.starts_conclude]
  obtain ⟨quiet, logged⟩ := Program.logged_conclude loop least.severity
  refine ⟨⟨?_, ?_, ?_⟩, ?_, ?_, ?_⟩
  · rw [here, there, Program.result_conclude, Program.result_conclude]
  · rw [here, there, Program.stdout_conclude, Program.stdout_conclude]
  · rw [started, there, Program.starts_conclude]
  · rw [here, Program.Report.stderr, quiet]
    rfl
  · intro milder
    rw [here, there, logged, (Program.logged_conclude loop other.severity).2, List.filter_filter]
    refine List.filter_congr fun note _ => ?_
    by_cases told : least.severity ≤ note.level.severity
    · simp [told, milder.trans told]
    · simp [told]
  · rintro rfl
    rw [started, here, logged]
    exact warnings_loop host environment none _ input

/-- A start that is denied, with the levels in other cases and the arguments in another order: of
what is logged for debugging one note is a warning. -/
theorem log_level_only_filters_of_denied :
    let host := Host.lone .denied
    let environment : Environment := Table.ofList [("PATH", "/bin")]
    let input := Input.ofBytes (Utf8.encode "p\n") .exhausted
    let severe := Program.run host environment ["--prompt=> ", "--log-level", "warning"] input
    let mild := Program.run host environment ["--log-level=Debug", "--prompt=> "] input
    severe.stdout = mild.stdout ∧
      severe.logged = [.startFailed "/bin/p" "[Errno 13] Permission denied: '/bin/p'"] ∧
      severe.logged = mild.logged.filter fun note => 30 ≤ note.level.severity := by
  intro host environment input severe mild
  let first : List Given := [.prompt "> ", .levelApart "warning"]
  let second : List Given := [.level "Debug", .prompt "> "]
  have acceptable : ∀ given ∈ first ++ second, given.Accepted := by decide
  have inForce : Given.levelInForce environment first = Level.warning.name := by decide
  have otherwise : Given.levelInForce environment second = Level.debug.name := by decide
  obtain ⟨⟨-, output, -⟩, -, filtered, warned⟩ :=
    log_level_only_filters acceptable (by decide) inForce otherwise host input
  have entered := Given.entry?_of_accepted (List.forall_mem_append.mp acceptable).1 inForce
  have told : severe.starts.filterMap (Start.failureNote? host) =
      [.startFailed "/bin/p" "[Errno 13] Permission denied: '/bin/p'"] := by
    have started : severe.starts = _ := Program.starts_of_entry entered host input
    rw [started, Session.loop_eq_consume]
    decide +kernel
  exact ⟨output, (warned rfl).trans told, filtered (Level.debug_least _)⟩

end PlainShell
