import PlainShell.Proofs.Capitals
import PlainShell.Proofs.Precedence
import PlainShell.Proofs.Variables

/-!
A log level that nobody knows. An argument with one is refused, but the environment may name any. A
program that is given an unknown name there logs warnings, and nothing else about it changes. One
name is unknown and does not do: it stands for the shape of a log line, and the program fails on it
before its loop.
-/

namespace PlainShell.Program

theorem threshold_of_unknown {name : Text} (unknown : name ∉ severities.map Prod.fst)
    (shapeless : name ≠ "BASIC_FORMAT") : threshold name = .ok Level.warning.severity := by
  have missing : severities.lookup name = none := by
    rw [List.lookup_eq_none_iff]
    intro entry member
    rw [bne_iff_ne]
    rintro rfl
    exact unknown (List.mem_map_of_mem member)
  rw [threshold, if_neg shapeless, missing]
  rfl

/-- Without arguments the environment names the level, and it is put in capitals as often as it is
handed on. -/
theorem run_without_arguments (host : Host) (environment : Environment) (level : Text)
    (input : Input) :
    let given := environment.insert "MYSHELL_LOG_LEVEL" level
    let prompt := (environment.get? "MYSHELL_PROMPT").getD "$ "
    run host given [] input =
      match threshold level.upper with
      | .error fault => .failed fault [] Level.warning.severity
      | .ok least => conclude ((Session.start host given none).loop host prompt input) least := by
  intro given prompt
  have parsed : Options.parse (Settings.ofEnvironment given) [] =
      .ok ⟨some (Given.promptInForce given []), some (Given.levelTaken given []), []⟩ :=
    @Given.parse_granted [] (by simp) (by simp) rfl given
  have shown : Given.promptInForce given [] = prompt := by
    change (given.get? "MYSHELL_PROMPT").getD "$ " = prompt
    rw [Table.get?_insert_of_ne _ (by decide)]
  have named : Given.levelTaken given [] = level.upper := by
    change ((given.get? "MYSHELL_LOG_LEVEL").map fun value => value.upper.upper).getD _ = _
    rw [Table.get?_insert]
    exact level.upper_upper
  rw [shown, named] at parsed
  have same : threshold level.upper.upper = threshold level.upper :=
    congrArg threshold level.upper_upper
  cases told : threshold level.upper <;> rw [told] at same <;> simp only [run, parsed, start, same]

theorem run_at_warning (host : Host) (environment : Environment) (input : Input) :
    let given := environment.insert "MYSHELL_LOG_LEVEL" ("WARNING" : Text)
    let prompt := (environment.get? "MYSHELL_PROMPT").getD "$ "
    run host given [] input =
      conclude ((Session.start host given none).loop host prompt input) Level.warning.severity := by
  have known : threshold (Text.upper "WARNING") = .ok Level.warning.severity := by rfl
  intro given prompt
  rw [run_without_arguments, known]

/-- The name of the shape of a log line stops the program before its loop. -/
theorem run_at_shape {level : Text} (shape : level.upper = "BASIC_FORMAT") (host : Host)
    (environment : Environment) (input : Input) :
    run host (environment.insert "MYSHELL_LOG_LEVEL" level) [] input =
      .failed (.notALevel "%(levelname)s:%(name)s:%(message)s") [] Level.warning.severity := by
  rw [run_without_arguments, threshold, if_pos shape]

/-- What the program shows does not tell in which environment its programs were started. -/
theorem conclude_within (run : Run Empty) (environment : Environment) (least : Nat) :
    let here := conclude run least
    let there := conclude (run.within environment) least
    there.result = here.result ∧ there.stdout = here.stdout ∧ there.stderr = here.stderr ∧
      there.starts = here.starts.map (·.within environment) := by
  have cause : (run.within environment).cause = run.cause := rfl
  obtain ⟨quiet, logged⟩ := logged_conclude run least
  obtain ⟨quiet', logged'⟩ := logged_conclude (run.within environment) least
  refine ⟨?_, ?_, ?_, ?_⟩
  · rw [result_conclude, result_conclude, cause]
  · rw [stdout_conclude, stdout_conclude, Run.written_within, cause]
  · rw [Report.stderr, Report.stderr, quiet, quiet', logged, logged', Run.notes_within]
  · rw [starts_conclude, starts_conclude, Run.starts_within]

/-- A log level of the environment that is none of the known names, in whatever case, does as a
level of warnings: the result, both channels and the programs that are started, each with its
arguments and its directory, are the same. The one exception names the shape of a log line, and
there the program fails before it reads or writes anything. -/
theorem unknown_level_warns_iff {level : Text}
    (unknown : level.upper ∉ ("_STYLES" : Text) :: severities.map Prod.fst) (host : Host)
    (environment : Environment) (input : Input) :
    let run := fun level : Text =>
      Program.run host (environment.insert "MYSHELL_LOG_LEVEL" level) [] input
    let made := fun report : Report =>
      report.starts.map fun record => (record.argv, record.directory)
    ((run level).result = (run "WARNING").result ∧ (run level).stdout = (run "WARNING").stdout ∧
        (run level).stderr = (run "WARNING").stderr ∧ made (run level) = made (run "WARNING") ↔
      level.upper ≠ "BASIC_FORMAT") ∧
    (level.upper = "BASIC_FORMAT" → (run level).events = [] ∧
      (run level).result = .error (.notALevel "%(levelname)s:%(name)s:%(message)s")) := by
  intro run made
  set prompt := (environment.get? "MYSHELL_PROMPT").getD "$ "
  set given : Environment := environment.insert "MYSHELL_LOG_LEVEL" level with given_eq
  set plain : Environment := environment.insert "MYSHELL_LOG_LEVEL" ("WARNING" : Text)
  have there : run "WARNING" = conclude ((Session.start host plain none).loop host prompt input)
      Level.warning.severity := run_at_warning host environment input
  by_cases shape : level.upper = "BASIC_FORMAT"
  · have here : run level = .failed (.notALevel "%(levelname)s:%(name)s:%(message)s") []
        Level.warning.severity := run_at_shape shape host environment input
    refine ⟨iff_of_false ?_ (not_not_intro shape), fun _ => by rw [here]; exact ⟨rfl, rfl⟩⟩
    rintro ⟨ended, -⟩
    have left := result_of_loop host plain prompt input Level.warning.severity
    rw [← there, ← ended, here] at left
    simp [Report.failed] at left
  · have here : run level = conclude ((Session.start host given none).loop host prompt input)
        Level.warning.severity := by
      change Program.run host given [] input = _
      rw [given_eq, run_without_arguments,
        threshold_of_unknown (List.not_mem_of_not_mem_cons unknown) shape]
    have agree : Environment.Agree given plain :=
      environment.agree_insert (by decide) (by decide) level ("WARNING" : Text)
    obtain ⟨result, stdout, stderr, starts⟩ := conclude_within
      ((Session.start host plain none).loop host prompt input) given Level.warning.severity
    rw [← Session.loop_within agree, ← here, ← there] at result stdout stderr starts
    refine ⟨iff_of_true ⟨result, stdout, stderr, ?_⟩ shape, fun same => absurd same shape⟩
    simp only [made, starts, List.map_map]
    rfl

/-- A denied start under a level that nobody knows: it is told of on both channels. -/
theorem unknown_level_warns_of_denied :
    let environment : Environment := Table.ofList [("PATH", "/bin")]
    let input := Input.ofBytes (Utf8.encode "p\nexit\n") .exhausted
    let run := fun level : Text =>
      Program.run (Host.lone .denied) (environment.insert "MYSHELL_LOG_LEVEL" level) [] input
    Text.upper "verboße" ∉ ("_STYLES" : Text) :: severities.map Prod.fst ∧
      (run "verboße").result = .ok 0 ∧ (run "verboße").stdout = (run "WARNING").stdout ∧
      (run "verboße").stderr = (run "WARNING").stderr := by
  intro environment input run
  have unknown : Text.upper "verboße" ∉ ("_STYLES" : Text) :: severities.map Prod.fst := by
    decide +kernel
  obtain ⟨result, stdout, stderr, -⟩ :=
    (unknown_level_warns_iff unknown (Host.lone .denied) environment input).1.mpr
      (by decide +kernel)
  have left : (Program.run (Host.lone .denied)
      (environment.insert "MYSHELL_LOG_LEVEL" ("WARNING" : Text)) [] input).result = .ok 0 := by
    rw [run_at_warning, Session.loop_eq_consume]
    decide +kernel
  exact ⟨unknown, result.trans left, stdout, stderr⟩

/-- The shape of a log line is no level that anybody knows, yet the program fails on it. -/
theorem shape_is_no_level :
    let input := Input.ofBytes (Utf8.encode "exit\n") .exhausted
    let run := fun level : Text => Program.run (Host.empty (some "/"))
      (Table.insert "MYSHELL_LOG_LEVEL" level []) [] input
    Text.upper "BASIC_FORMAT" ∉ ("_STYLES" : Text) :: severities.map Prod.fst ∧
      (run "BASIC_FORMAT").result = .error (.notALevel "%(levelname)s:%(name)s:%(message)s") ∧
      (run "WARNING").result = .ok 0 := by
  intro input run
  have left : (Program.run (Host.empty (some "/"))
      (Table.insert "MYSHELL_LOG_LEVEL" ("WARNING" : Text) []) [] input).result = .ok 0 := by
    rw [run_at_warning, Session.loop_eq_consume]
    decide +kernel
  exact ⟨by decide +kernel, congrArg Report.result (run_at_shape (by decide +kernel) _ [] input),
    left⟩

end PlainShell.Program
