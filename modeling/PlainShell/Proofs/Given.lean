import PlainShell.Proofs.Entrance
import PlainShell.Proofs.OutputKinds

/-!
Settings that are given as arguments. Arguments that do nothing but set the prompt and the log level
are read as they are meant, in any number and order: of each setting the last one counts, and the
environment where there is none. Behind such arguments the program is the loop.
-/

namespace PlainShell

/-- An argument that gives a setting its value, or two when the value stands apart. -/
inductive Given where
  | prompt (value : Text)
  | level (value : Text)
  | levelApart (value : Text)
  deriving DecidableEq, Repr

namespace Given

def which : Given → Setting
  | .prompt _ => .prompt
  | .level _ | .levelApart _ => .logLevel

def value : Given → Text
  | .prompt value | .level value | .levelApart value => value

def arguments : Given → List Text
  | .prompt value => ["--prompt=" ++ value]
  | .level value => ["--log-level=" ++ value]
  | .levelApart value => ["--log-level", value]

/-- The value stands apart from the option. -/
def isApart : Given → Bool
  | .prompt _ | .level _ => false
  | .levelApart _ => true

/-- A prompt is any text but the one that ends the options. A level is one of the known, in any
case. -/
def Accepted : Given → Prop
  | .prompt value => value ≠ Options.separator
  | .level value | .levelApart value => value.upper ∈ Level.all.map Level.name

instance : (given : Given) → Decidable given.Accepted
  | .prompt value => inferInstanceAs (Decidable (value ≠ Options.separator))
  | .level value | .levelApart value =>
    inferInstanceAs (Decidable (value.upper ∈ Level.all.map Level.name))

/-- The value of the last one for the setting. -/
def last (which : Setting) (givens : List Given) : Option Text :=
  ((givens.filter (·.which = which)).map value).getLast?

theorem last_cons (which : Setting) (given : Given) (rest : List Given) :
    last which (given :: rest) =
      (last which rest).or (if given.which = which then some given.value else none) := by
  unfold last
  by_cases same : given.which = which
  · rw [List.filter_cons_of_pos (by simpa using same), List.map_cons, List.getLast?_cons,
      if_pos same]
    cases ((rest.filter (·.which = which)).map value).getLast? <;> rfl
  · rw [List.filter_cons_of_neg (by simpa using same), if_neg same, Option.or_none]

/-- The prompt that is in force behind the arguments. -/
def promptInForce (environment : Environment) (givens : List Given) : Text :=
  (last .prompt givens).getD ((environment.get? "MYSHELL_PROMPT").getD "$ ")

/-- The name of the log level that is in force behind the arguments. -/
def levelInForce (environment : Environment) (givens : List Given) : Text :=
  ((last .logLevel givens).getD ((environment.get? "MYSHELL_LOG_LEVEL").getD "WARNING")).upper

/-! Telling the arguments apart. -/

/-- How the arguments are told apart. -/
def kinds : Given → List (Text × Options.Kind)
  | .prompt value => [("--prompt=" ++ value, .flag (.setting .prompt) (some value))]
  | .level value => [("--log-level=" ++ value, .flag (.setting .logLevel) (some value))]
  | .levelApart value => [("--log-level", .flag (.setting .logLevel) none), (value, .word)]

end Given

theorem Level.upper_name (level : Level) : level.name.upper = level.name := by
  cases level <;> decide

namespace Options

/-- No level looks like an option. -/
theorem head?_of_level {value : Text} (known : value.upper ∈ Level.all.map Level.name) :
    value.head? ≠ some dash := by
  intro first
  obtain ⟨rest, rfl⟩ := List.head?_eq_some_iff.mp first
  have begins : Text.upper (dash :: rest) = dash :: Text.upper rest := by rfl
  have none : ∀ name ∈ Level.all.map Level.name, name.head? ≠ some dash := by decide
  exact none _ known (by rw [begins, List.head?_cons])

theorem ne_separator_of_level {value : Text} (known : value.upper ∈ Level.all.map Level.name) :
    value ≠ separator := by
  rintro rfl
  exact head?_of_level known rfl

theorem tellApart_cons {argument : Text} {kind : Kind} (apart : argument ≠ separator)
    (looks : kindOf argument = .ok kind) (rest : List Text) :
    tellApart (argument :: rest) = (tellApart rest).map ((argument, kind) :: ·) := by
  rw [tellApart, if_neg apart, looks]
  cases tellApart rest <;> rfl

end Options

namespace Given

/-- The value has to be acceptable only where it stands apart: there it must not look like an
option. -/
theorem tellApart_arguments {given : Given} (readable : given.isApart = true → given.Accepted)
    (rest : List Text) :
    Options.tellApart (given.arguments ++ rest) =
      (Options.tellApart rest).map (given.kinds ++ ·) := by
  cases given with
  | prompt value =>
    have apart : ("--prompt=" ++ value : Text) ≠ Options.separator := fun same =>
      List.cons_ne_nil _ _ (congrArg (List.drop 2) same)
    exact Options.tellApart_cons apart rfl rest
  | level value =>
    have apart : ("--log-level=" ++ value : Text) ≠ Options.separator := fun same =>
      List.cons_ne_nil _ _ (congrArg (List.drop 2) same)
    exact Options.tellApart_cons apart rfl rest
  | levelApart value =>
    have known : value.upper ∈ Level.all.map Level.name := readable rfl
    have apart : ("--log-level" : Text) ≠ Options.separator := fun same =>
      List.cons_ne_nil _ _ (congrArg (List.drop 2) same)
    have word : Options.kindOf value = .ok .word := by
      rw [Options.kindOf, if_pos (Or.inl (Options.head?_of_level known))]
    change Options.tellApart ("--log-level" :: value :: rest) = _
    rw [Options.tellApart_cons apart rfl,
      Options.tellApart_cons (Options.ne_separator_of_level known) word]
    cases Options.tellApart rest <;> rfl

theorem tellApart_all {givens : List Given}
    (readable : ∀ given ∈ givens, given.isApart = true → given.Accepted) :
    Options.tellApart (givens.flatMap arguments) = .ok (givens.flatMap kinds) := by
  induction givens with
  | nil => rfl
  | cons given rest ih =>
    obtain ⟨first, others⟩ := List.forall_mem_cons.mp readable
    rw [List.flatMap_cons, tellApart_arguments first, ih others]
    rfl

/-! Letting them act. -/

/-- The choice with the setting taken from the argument. -/
def takenBy (choice : Options.Choice) (given : Given) : Options.Choice :=
  match given.which with
  | .prompt => { choice with prompt := some given.value }
  | .logLevel => { choice with logLevel := some given.value.upper }

theorem act_kinds_eq_bind (given : Given) (choice : Options.Choice)
    (rest : List (Text × Options.Kind)) :
    Options.act choice (given.kinds ++ rest) =
      choice.set given.which given.value >>= fun later => Options.act later rest := by
  cases given <;> rfl

theorem act_kinds {given : Given} (accepted : given.Accepted) (choice : Options.Choice)
    (rest : List (Text × Options.Kind)) :
    Options.act choice (given.kinds ++ rest) = Options.act (takenBy choice given) rest := by
  have sets : choice.set given.which given.value = .ok (takenBy choice given) := by
    cases given with
    | prompt value =>
      have kept : value ≠ Options.separator := accepted
      change choice.set .prompt value = _
      rw [Options.Choice.set, if_neg kept]
      rfl
    | level value | levelApart value =>
      have known : value.upper ∈ Level.all.map Level.name := accepted
      change choice.set .logLevel value = _
      rw [Options.Choice.set, if_neg (Options.ne_separator_of_level known)]
      exact if_pos known
  rw [act_kinds_eq_bind, sets]
  rfl

theorem act_all {givens : List Given} (accepted : ∀ given ∈ givens, given.Accepted)
    (choice : Options.Choice) :
    Options.act choice (givens.flatMap kinds) =
      .ok { choice with
        prompt := (last .prompt givens).or choice.prompt
        logLevel := ((last .logLevel givens).map Text.upper).or choice.logLevel } := by
  induction givens generalizing choice with
  | nil => rfl
  | cons given rest ih =>
    obtain ⟨first, others⟩ := List.forall_mem_cons.mp accepted
    rw [List.flatMap_cons, act_kinds first, ih others, last_cons, last_cons]
    cases given <;> simp [takenBy, which, value]

end Given

theorem Program.threshold_name (level : Level) : threshold level.name = .ok level.severity := by
  cases level <;> rfl

namespace Given

/-- Behind such arguments the program comes as far as the loop. -/
theorem entry?_of_accepted {environment : Environment} {givens : List Given} {level : Level}
    (accepted : ∀ given ∈ givens, given.Accepted)
    (inForce : levelInForce environment givens = level.name) :
    Program.entry? environment (givens.flatMap arguments) =
      some (promptInForce environment givens, level.severity) := by
  have named : ((last .logLevel givens).map Text.upper).or
      (some (Settings.ofEnvironment environment).logLevel.upper) = some level.name := by
    unfold levelInForce at inForce
    cases told : last .logLevel givens with
    | some value =>
      rw [told] at inForce
      exact congrArg some inForce
    | none =>
      rw [told] at inForce
      have settled : (Settings.ofEnvironment environment).logLevel = level.name := inForce
      rw [settled, level.upper_name]
      rfl
  have shown : (last .prompt givens).or (some (Settings.ofEnvironment environment).prompt) =
      some (promptInForce environment givens) := Option.or_some
  have parsed : Options.parse (Settings.ofEnvironment environment) (givens.flatMap arguments) =
      .ok ⟨some (promptInForce environment givens), some level.name, []⟩ := by
    simp only [Options.parse, tellApart_all fun given member _ => accepted given member,
      act_all accepted, named, shown, ↓reduceIte]
  simp only [Program.entry?, parsed, Option.map_some, level.upper_name, Program.threshold_name]

/-! Arguments that give a prompt and nothing else. -/

theorem last_prompts (values : List Text) :
    last .prompt (values.map .prompt) = values.getLast? := by
  have all : (values.map Given.prompt).filter (·.which = .prompt) = values.map .prompt := by
    rw [List.filter_eq_self]
    intro given member
    obtain ⟨value, -, rfl⟩ := List.mem_map.mp member
    rfl
  have back : (values.map Given.prompt).map value = values := by
    rw [List.map_map]
    exact List.map_id values
  rw [last, all, back]

theorem levelInForce_prompts {environment : Environment}
    (known : ∀ level ∈ environment.get? "MYSHELL_LOG_LEVEL",
      level.upper ∈ Level.all.map Level.name) (values : List Text) :
    ∃ level, levelInForce environment (values.map .prompt) = Level.name level := by
  have none : last .logLevel (values.map .prompt) = none := by
    have nothing : (values.map Given.prompt).filter (·.which = .logLevel) = [] := by
      rw [List.filter_eq_nil_iff]
      intro given member
      obtain ⟨value, -, rfl⟩ := List.mem_map.mp member
      simp [which]
    rw [last, nothing]
    rfl
  rw [levelInForce, none]
  cases given : environment.get? "MYSHELL_LOG_LEVEL" with
  | none => exact ⟨.warning, Level.upper_name .warning⟩
  | some level =>
    obtain ⟨least, -, same⟩ := List.mem_map.mp (known level given)
    exact ⟨least, same.symm⟩

theorem arguments_prompts (values : List Text) :
    (values.map Given.prompt).flatMap arguments =
      values.map fun value => ("--prompt=" ++ value : Text) := by
  induction values with
  | nil => rfl
  | cons value rest ih =>
    rw [List.map_cons, List.flatMap_cons, ih]
    rfl

end Given

/-- Behind prompts alone the program is the loop on an output over bytes, with the last prompt, or
the one of the environment, or the default. It starts what the loop starts. An exit gives its code,
an interrupt gives 130 and ends its line, and anything else that leaves the loop leaves the
program. -/
theorem run_over_prompts {environment : Environment} {values : List Text}
    (whole : ∀ value ∈ values, value ≠ Options.separator)
    (known : ∀ level ∈ environment.get? "MYSHELL_LOG_LEVEL",
      level.upper ∈ Level.all.map Level.name)
    (host : Host) (input : Input) (spill : Spill) :
    let prompt := values.getLast?.getD ((environment.get? "MYSHELL_PROMPT").getD "$ ")
    let shown := ((Session.start host environment none).loop host prompt input).accountOn
      (.overBytes spill)
    let report := Program.run host environment (values.map fun value => "--prompt=" ++ value) input
    report.starts = shown.starts ∧
      match shown.cause with
      | .exit code => report.result = .ok code ∧ report.stdout = shown.output
      | .interrupt => report.result = .ok 130 ∧ report.stdout = shown.output ++ [0x0A]
      | .fault fault => report.result = .error fault ∧ report.stdout = shown.output := by
  intro prompt shown report
  have accepted : ∀ given ∈ values.map Given.prompt, given.Accepted := by
    intro given member
    obtain ⟨value, among, rfl⟩ := List.mem_map.mp member
    exact whole value among
  obtain ⟨level, inForce⟩ := Given.levelInForce_prompts known values
  have entered := Given.entry?_of_accepted accepted inForce
  rw [Given.arguments_prompts, Given.promptInForce, Given.last_prompts] at entered
  set loop := (Session.start host environment none).loop host prompt input with loop_eq
  have same : shown = loop.account :=
    (account_overBytes host environment none prompt input spill).2
  have reported : report = Program.conclude loop level.severity :=
    Program.run_of_entry entered host input
  have written : report.stdout = shown.output ++ Program.lastOctets loop.cause := by
    rw [reported, Program.stdout_conclude, same]
    rfl
  have started : report.starts = shown.starts := by
    rw [reported, Program.starts_conclude, same]
    rfl
  have result : report.result = Program.lastResult loop.cause := by
    rw [reported, Program.result_conclude]
  have cause : shown.cause = loop.cause := congrArg Account.cause same
  refine ⟨started, ?_⟩
  rw [cause]
  cases ended : loop.cause with
  | exit code =>
    rw [ended] at result written
    exact ⟨result, written.trans (List.append_nil _)⟩
  | interrupt =>
    rw [ended] at result written
    exact ⟨result, written⟩
  | fault fault =>
    rw [ended] at result written
    exact ⟨result, written.trans (List.append_nil _)⟩

/-- A program that is interrupted, behind two prompts and with a level in small letters. -/
theorem run_over_prompts_of_interrupt :
    let host := Host.lone .interrupted
    let environment : Environment := Table.ofList
      [("PATH", "/bin"), ("MYSHELL_LOG_LEVEL", "debug"), ("MYSHELL_PROMPT", "% ")]
    let input := Input.ofBytes (Utf8.encode "p x\nexit\n") .exhausted
    let report := Program.run host environment ["--prompt=# ", "--prompt=> "] input
    report.result = .ok 130 ∧ report.stdout = Utf8.encode "> \n" ∧
      report.starts = [⟨["/bin/p", "x"], some "/", environment⟩] := by
  intro host environment input report
  have whole : ∀ value ∈ ([("# " : Text), ("> " : Text)] : List Text),
      value ≠ Options.separator := by decide
  have known : ∀ level ∈ environment.get? "MYSHELL_LOG_LEVEL",
      level.upper ∈ Level.all.map Level.name := by decide
  obtain ⟨started, ended⟩ := run_over_prompts whole known host input Spill.none
  set loop := (Session.start host environment none).loop host "> " input with loop_eq
  have came : loop.cause = .interrupt ∧ loop.starts = [⟨["/bin/p", "x"], some "/", environment⟩] ∧
      ((Output.overBytes Spill.none).deliver loop.events).content = Utf8.encode "> " := by
    rw [loop_eq, Session.loop_eq_consume]
    decide +kernel
  obtain ⟨cause, starts, output⟩ := came
  have closed : report.result = .ok 130 ∧ report.stdout = Utf8.encode "> " ++ [0x0A] := by
    change match loop.cause with
      | .exit _ => _
      | .interrupt => _
      | .fault _ => _ at ended
    rw [cause] at ended
    exact ⟨ended.1, ended.2.trans (congrArg (· ++ _) output)⟩
  have feed : Utf8.encode "> " ++ [0x0A] = Utf8.encode "> \n" := by decide
  exact ⟨closed.1, closed.2.trans feed, started.trans starts⟩

end PlainShell
