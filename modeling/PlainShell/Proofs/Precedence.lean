import PlainShell.Proofs.Given
import PlainShell.Proofs.ExecutedCommands

/-!
Which source of a setting counts. An argument goes before the environment, the environment before
the default, and of the arguments the last one counts. A level that is given as an argument has to
be one of the known; a level of the environment is not looked at. The first unknown level stops the
program before anything is read, written or started.
-/

namespace PlainShell

namespace Given

/-- The level that the argument asks for in vain. -/
def refusal? : Given → Option Text
  | .prompt _ => none
  | .level value | .levelApart value =>
    if (Given.level value).Accepted then none else some value.upper

theorem refusal?_level_isSome {value : Text} :
    (refusal? (.level value)).isSome = true ↔ value.upper ∉ Level.all.map Level.name := by
  change _ ↔ ¬(Given.level value).Accepted
  by_cases known : (Given.level value).Accepted
  · simp [refusal?, known]
  · simp [refusal?, known]

/-- What is no separator and asks for nothing unknown is acceptable. -/
theorem accepted_of_refusal? {given : Given} (whole : given.value ≠ Options.separator)
    (granted : given.refusal? = none) : given.Accepted := by
  cases given with
  | prompt value => exact whole
  | level value | levelApart value =>
    by_contra unknown
    exact Option.some_ne_none _ ((if_neg unknown).symm.trans granted)

theorem set_refused {given : Given} {level : Text} (whole : given.value ≠ Options.separator)
    (refused : given.refusal? = some level) (choice : Options.Choice) :
    choice.set given.which given.value = .error (.misuse (.levelUnknown level)) := by
  cases given with
  | prompt value => simp [refusal?] at refused
  | level value | levelApart value =>
    change (if (Given.level value).Accepted then none else some value.upper) = _ at refused
    split at refused
    · simp at refused
    · next unknown =>
      obtain rfl := Option.some.inj refused
      have kept : value ≠ Options.separator := whole
      change choice.set .logLevel value = _
      rw [Options.Choice.set, if_neg kept]
      exact if_neg unknown

/-- The first unknown level stops the options, whatever stands behind it. -/
theorem act_refused {givens : List Given} {level : Text}
    (whole : ∀ given ∈ givens, given.value ≠ Options.separator)
    (refused : givens.findSome? refusal? = some level) (choice : Options.Choice) :
    Options.act choice (givens.flatMap kinds) = .error (.misuse (.levelUnknown level)) := by
  induction givens generalizing choice with
  | nil => simp at refused
  | cons given rest ih =>
    obtain ⟨here, others⟩ := List.forall_mem_cons.mp whole
    rw [List.findSome?_cons] at refused
    rw [List.flatMap_cons]
    cases first : given.refusal? with
    | some unknown =>
      rw [first] at refused
      obtain rfl : unknown = level := Option.some.inj refused
      rw [act_kinds_eq_bind, set_refused here first]
      rfl
    | none =>
      rw [first] at refused
      rw [act_kinds (accepted_of_refusal? here first)]
      exact ih others refused _

/-- The level as the program compares it, from the argument or from where there is none. The
environment's is put in capitals twice. -/
def levelTaken (environment : Environment) (givens : List Given) : Text :=
  ((last .logLevel givens).map Text.upper).getD
    (((environment.get? "MYSHELL_LOG_LEVEL").map fun value => value.upper.upper).getD "WARNING")

theorem tellApart_attached {givens : List Given}
    (attached : ∀ given ∈ givens, given.isApart = false) :
    Options.tellApart (givens.flatMap arguments) = .ok (givens.flatMap kinds) := by
  refine tellApart_all fun given member stands => ?_
  rw [attached given member] at stands
  exact absurd stands Bool.false_ne_true

theorem parse_refused {givens : List Given} {level : Text}
    (attached : ∀ given ∈ givens, given.isApart = false)
    (whole : ∀ given ∈ givens, given.value ≠ Options.separator)
    (refused : givens.findSome? refusal? = some level) (settings : Settings) :
    Options.parse settings (givens.flatMap arguments) =
      .error (.misuse (.levelUnknown level)) := by
  simp only [Options.parse, tellApart_attached attached, act_refused whole refused]

theorem parse_granted {givens : List Given}
    (attached : ∀ given ∈ givens, given.isApart = false)
    (whole : ∀ given ∈ givens, given.value ≠ Options.separator)
    (granted : givens.findSome? refusal? = none) (environment : Environment) :
    Options.parse (Settings.ofEnvironment environment) (givens.flatMap arguments) =
      .ok ⟨some (promptInForce environment givens), some (levelTaken environment givens), []⟩ := by
  have accepted : ∀ given ∈ givens, given.Accepted := fun given member =>
    accepted_of_refusal? (whole given member) (List.findSome?_eq_none_iff.mp granted given member)
  have shown : (last .prompt givens).or (some (Settings.ofEnvironment environment).prompt) =
      some (promptInForce environment givens) := Option.or_some
  have named : ((last .logLevel givens).map Text.upper).or
      (some (Settings.ofEnvironment environment).logLevel.upper) =
      some (levelTaken environment givens) := by
    have settled : (Settings.ofEnvironment environment).logLevel.upper =
        ((environment.get? "MYSHELL_LOG_LEVEL").map fun value => value.upper.upper).getD
          ("WARNING" : Text) := by
      have twice : Text.upper (Text.upper "WARNING") = "WARNING" := by decide
      change ((environment.get? "MYSHELL_LOG_LEVEL").getD "WARNING").upper.upper = _
      cases environment.get? "MYSHELL_LOG_LEVEL" with
      | some value => rfl
      | none => exact twice
    rw [settled]
    exact Option.or_some
  simp only [Options.parse, tellApart_attached attached, act_all accepted, shown, named,
    ↓reduceIte]

end Given

/-- The loop gives the program one of four results. -/
theorem Program.result_of_loop (host : Host) (environment : Environment) (prompt : Text)
    (input : Input) (threshold : Nat) :
    (conclude ((Session.start host environment none).loop host prompt input) threshold).result ∈
      [Except.ok 0, .ok 1, .ok 130, .error .embeddedNul] := by
  have left := cause_of_loop host environment none prompt input
  rw [result_conclude]
  simp only [List.mem_cons, List.not_mem_nil, or_false] at left
  rcases left with ended | ended | ended | ended <;> rw [ended] <;> simp [lastResult]

/-- With its options settled the program does not end as a misuse of them does. -/
theorem Program.start_result_ne (host : Host) (environment : Environment) (input : Input)
    (choice : Options.Choice) : (start host environment input choice).result ≠ .ok 2 := by
  intro ended
  unfold start at ended
  split at ended
  · simp [Report.failed] at ended
  · split at ended
    · simp [Report.failed] at ended
    · next least _ =>
      split at ended
      · simp [Report.failed] at ended
      · next prompt _ =>
        have left := result_of_loop host environment prompt input least
        rw [ended] at left
        simp at left

/-- Arguments that set the prompt and the log level, each with its value attached. A level that is
none of the known, in capitals, is answered with status 2 and a complaint about the first of them:
nothing is read, written or started. Without one the program starts with the last prompt, or the
one of the environment, or the default, and with the last level in capitals, or the one of the
environment, whatever it is, or the default. -/
theorem last_option_wins {givens : List Given}
    (attached : ∀ given ∈ givens, given.isApart = false)
    (whole : ∀ given ∈ givens, given.value ≠ Options.separator)
    (host : Host) (environment : Environment) (input : Input) :
    let arguments := givens.flatMap Given.arguments
    let report := Program.run host environment arguments input
    let unknown := ∃ value, .level value ∈ givens ∧ value.upper ∉ Level.all.map Level.name
    let prompt := (Given.last .prompt givens).getD
      ((environment.get? "MYSHELL_PROMPT").getD "$ ")
    let level := ((Given.last .logLevel givens).map Text.upper).getD
      (((environment.get? "MYSHELL_LOG_LEVEL").map fun value => value.upper.upper).getD "WARNING")
    (report.result = .ok 2 ↔ unknown) ∧
    (unknown → report.events = [] ∧ report.stdout = [] ∧ report.starts = [] ∧
      ∃ refused, givens.findSome? Given.refusal? = some refused ∧
        report.complaint = Program.complaint (.levelUnknown refused)) ∧
    (¬unknown →
      Options.parse (Settings.ofEnvironment environment) arguments =
        .ok ⟨some prompt, some level, []⟩ ∧
      report = Program.start host environment input ⟨some prompt, some level, []⟩) := by
  intro arguments report unknown prompt level
  have told : unknown ↔ ∃ refused, givens.findSome? Given.refusal? = some refused := by
    rw [← Option.isSome_iff_exists, List.findSome?_isSome_iff]
    constructor
    · rintro ⟨value, member, none⟩
      exact ⟨_, member, Given.refusal?_level_isSome.mpr none⟩
    · rintro ⟨given, member, refused⟩
      cases given with
      | prompt value => simp [Given.refusal?] at refused
      | level value => exact ⟨value, member, Given.refusal?_level_isSome.mp refused⟩
      | levelApart value =>
        have stands := attached _ member
        simp [Given.isApart] at stands
  cases first : givens.findSome? Given.refusal? with
  | some refused =>
    have stopped : report = .stopped 2 [] (Program.complaint (.levelUnknown refused)) := by
      simp only [report, Program.run, arguments, Given.parse_refused attached whole first]
    have asked : unknown := told.mpr ⟨refused, first⟩
    refine ⟨iff_of_true (by rw [stopped]; rfl) asked, fun _ => ?_, fun none => absurd asked none⟩
    rw [stopped]
    exact ⟨rfl, rfl, rfl, refused, rfl, rfl⟩
  | none =>
    have parsed : Options.parse (Settings.ofEnvironment environment) arguments =
      .ok ⟨some prompt, some level, []⟩ := Given.parse_granted attached whole first environment
    have entered : report = Program.start host environment input ⟨some prompt, some level, []⟩ := by
      simp only [report, Program.run, parsed]
    have granted : ¬unknown := by
      rw [told, first]
      simp
    refine ⟨iff_of_false ?_ granted, fun asked => absurd asked granted, fun _ => ⟨parsed, entered⟩⟩
    rw [entered]
    exact Program.start_result_ne host environment input _

/-- A level with a dotless i is known in capitals, and the empty prompt counts. A level that looks
like an option is refused though a good one stands behind it. The environment's level may be
anything. -/
theorem last_option_wins_of_odd_values :
    let host := Host.lone .denied
    let environment : Environment := Table.ofList
      [("MYSHELL_LOG_LEVEL", "straße"), ("MYSHELL_PROMPT", "% ")]
    let input := Input.ofBytes (Utf8.encode "p\n") .exhausted
    let run := fun arguments => Program.run host environment arguments input
    run ["--prompt=a=b", "--log-level=ınfo", "--prompt="] =
      Program.start host environment input ⟨some [], some "INFO", []⟩ ∧
    run ["--prompt=-="] =
      Program.start host environment input ⟨some "-=", some "STRASSE", []⟩ ∧
    (run ["--log-level=debug", "--log-level=--prompt", "--log-level=info"]).result = .ok 2 := by
  intro host environment input run
  let odd : List Given := [.prompt "a=b", .level "ınfo", .prompt []]
  let alone : List Given := [.prompt "-="]
  let unknown : List Given := [.level "debug", .level "--prompt", .level "info"]
  obtain ⟨-, -, started⟩ := @last_option_wins odd (by decide) (by decide) host environment
    input
  obtain ⟨-, -, besides⟩ := @last_option_wins alone (by decide) (by decide) host environment
    input
  obtain ⟨refused, -, -⟩ := @last_option_wins unknown (by decide) (by decide) host environment
    input
  have known : ¬∃ value, .level value ∈ odd ∧ value.upper ∉ Level.all.map Level.name := by
    rintro ⟨value, member, other⟩
    simp only [odd, List.mem_cons, List.not_mem_nil, reduceCtorEq, Given.level.injEq, or_false,
      false_or] at member
    subst member
    exact other (by decide +kernel)
  have without : ¬∃ value, .level value ∈ alone ∧ value.upper ∉ Level.all.map Level.name := by
    rintro ⟨value, member, -⟩
    cases List.mem_singleton.mp member
  have capitals : ((Given.last .logLevel odd).map Text.upper).getD
      (((environment.get? "MYSHELL_LOG_LEVEL").map fun value => value.upper.upper).getD
        ("WARNING" : Text)) = "INFO" := by decide +kernel
  have unchecked : ((Given.last .logLevel alone).map Text.upper).getD
      (((environment.get? "MYSHELL_LOG_LEVEL").map fun value => value.upper.upper).getD
        ("WARNING" : Text)) = "STRASSE" := by decide +kernel
  obtain ⟨-, first⟩ := started known
  obtain ⟨-, second⟩ := besides without
  rw [capitals] at first
  rw [unchecked] at second
  exact ⟨first, second, refused.mpr ⟨"--prompt", by decide, by decide⟩⟩

end PlainShell
