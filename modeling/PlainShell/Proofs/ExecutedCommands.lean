import Mathlib.Data.List.Basic
import PlainShell.Proofs.Command
import PlainShell.Proofs.Turns

/-!
The commands of a whole run: the lines that are executed, each with the directory it finds. They are
told from the input and the machine alone, and the starts of the run are read off them.
-/

namespace PlainShell

variable (host : Host) (environment : Environment)

/-- One line after another in the directory that the lines before have left, as far as the first
line that leaves the shell. -/
def executedCommands (host : Host) (environment : Environment) :
    Option Text → List Text → List Command
  | _, [] => []
  | directory, line :: rest =>
    let command : Command := ⟨directory, line⟩
    match command.departure? host environment with
    | some _ => [command]
    | none => command :: executedCommands host environment (command.next host environment) rest

variable {host environment}

theorem executedCommands_of_departure {command : Command} {cause : Departure}
    (departs : command.departure? host environment = some cause) (rest : List Text) :
    executedCommands host environment command.directory (command.line :: rest) = [command] := by
  obtain ⟨directory, line⟩ := command
  simp only [executedCommands, departs]

theorem executedCommands_of_stay {command : Command}
    (stays : command.departure? host environment = none) (rest : List Text) :
    executedCommands host environment command.directory (command.line :: rest) =
      command :: executedCommands host environment (command.next host environment) rest := by
  obtain ⟨directory, line⟩ := command
  simp only [executedCommands, stays]

/-- The first line is always executed. -/
theorem head?_executedCommands (directory : Option Text) (lines : List Text) :
    (executedCommands host environment directory lines).head?.map Command.line = lines.head? := by
  cases lines with
  | nil => rfl
  | cons line rest =>
    cases departs : (⟨directory, line⟩ : Command).departure? host environment with
    | some cause => rw [executedCommands_of_departure departs rest]; rfl
    | none => rw [executedCommands_of_stay departs rest]; rfl

/-- A command in its place: all lines before it have been executed and have stayed, they have left
its session, the directory is that of the last move, and its own line decides whether the rest is
executed. -/
theorem executedCommands_split {directory : Option Text} {lines : List Text}
    {before later : List Command} {command : Command}
    (whole : executedCommands host environment directory lines = before ++ command :: later) :
    ∃ rest, lines = before.map Command.line ++ command.line :: rest ∧
      (∀ passed ∈ before, passed.departure? host environment = none) ∧
      command.session environment =
        (Session.stocked directory environment).afterLines host (before.map Command.line) ∧
      command.directory =
        ((before.filterMap (Command.moved? host environment)).getLast?).or directory ∧
      later =
        match command.departure? host environment with
        | some _ => []
        | none => executedCommands host environment (command.next host environment) rest := by
  induction lines generalizing directory before with
  | nil => simp [executedCommands] at whole
  | cons line rest ih =>
    cases departs : (⟨directory, line⟩ : Command).departure? host environment with
    | some cause =>
      have alone := (executedCommands_of_departure departs rest).symm.trans whole
      obtain ⟨rfl, rfl, rfl⟩ : before = [] ∧ command = ⟨directory, line⟩ ∧ later = [] := by
        cases before <;> simp_all
      exact ⟨rest, rfl, by simp, rfl, rfl, by rw [departs]⟩
    | none =>
      have onward := (executedCommands_of_stay departs rest).symm.trans whole
      cases before with
      | nil =>
        obtain ⟨rfl, tail⟩ := List.cons.inj onward
        exact ⟨rest, rfl, by simp, rfl, rfl, by rw [departs, tail]⟩
      | cons first others =>
        obtain ⟨rfl, tail⟩ := List.cons.inj onward
        obtain ⟨unread, read, stayed, left, reached, last⟩ := ih tail
        refine ⟨unread, ?_, List.forall_mem_cons.mpr ⟨departs, stayed⟩, ?_, ?_, last⟩
        · rw [read, List.map_cons, List.cons_append]
        · have governs := (⟨directory, line⟩ : Command).execute_governs host environment
          rw [left, ← governs.session]
          rfl
        · rw [reached, Command.next]
          cases moved : (⟨directory, line⟩ : Command).moved? host environment with
          | none => rw [List.filterMap_cons_none moved, Option.none_or]
          | some goal =>
            rw [List.filterMap_cons_some moved, List.getLast?_cons]
            cases (others.filterMap (Command.moved? host environment)).getLast? <;> rfl

/-- Lines leave the builtins and the environment alone: they lead to a command for the next line. -/
theorem afterLines_stocked (host : Host) (environment : Environment) (directory : Option Text)
    (lines : List Text) :
    ∃ reached, (Session.stocked directory environment).afterLines host lines =
      .stocked reached environment := by
  induction lines generalizing directory with
  | nil => exact ⟨directory, rfl⟩
  | cons line rest ih =>
    have governs := (⟨directory, line⟩ : Command).execute_governs host environment
    obtain ⟨reached, left⟩ := ih ((⟨directory, line⟩ : Command).next host environment)
    rw [← governs.session] at left
    exact ⟨reached, left⟩

/-- The line of a command either leaves the shell as the command says, or it returns. -/
theorem Command.returns_iff (command : Command) :
    ((command.session environment).execute host command.line).Returns ↔
      command.departure? host environment = none := by
  have governs := command.execute_governs host environment
  refine ⟨?_, governs.returns⟩
  rintro ⟨status, returned⟩
  cases departs : command.departure? host environment with
  | none => rfl
  | some cause =>
    rw [governs.departs cause departs] at returned
    simp at returned

/-- Lines that all stay are all executed. -/
theorem executedCommands_complete {directory : Option Text} {lines : List Text}
    (stay : ∀ command ∈ executedCommands host environment directory lines,
      command.departure? host environment = none) :
    (executedCommands host environment directory lines).map Command.line = lines := by
  induction lines generalizing directory with
  | nil => rfl
  | cons line rest ih =>
    cases departs : (⟨directory, line⟩ : Command).departure? host environment with
    | some cause =>
      have alone := executedCommands_of_departure departs rest
      have stays := stay ⟨directory, line⟩ (by rw [alone]; exact List.mem_singleton_self _)
      rw [departs] at stays
      simp at stays
    | none =>
      have onward := executedCommands_of_stay departs rest
      rw [onward] at stay ⊢
      rw [List.map_cons, ih fun command member => stay command (List.mem_cons_of_mem _ member)]

/-- The loop over lines that lie ready starts what their commands ask for and leaves as the first of
them that leaves. -/
theorem consume_executedCommands (host : Host) (environment : Environment) (prompt : Text)
    (ending : Ending) (directory : Option Text) (lines : List Text) :
    let run := (Session.stocked directory environment).consume host prompt ending lines
    let visited := executedCommands host environment directory lines
    run.starts = visited.filterMap (Command.start? host environment) ∧
      run.cause =
        (visited.findSome? (Command.departure? host environment)).getD ending.departure := by
  induction lines generalizing directory with
  | nil =>
    have last := Session.account_farewell (.stocked directory environment) prompt ending
    exact ⟨congrArg Account.starts last, congrArg Account.cause last⟩
  | cons line rest ih =>
    have governs := (⟨directory, line⟩ : Command).execute_governs host environment
    have here : ((Session.stocked directory environment).turns host [line]).flatMap Run.starts =
        ((⟨directory, line⟩ : Command).start? host environment).toList :=
      (List.append_nil _).trans governs.starts
    cases departs : (⟨directory, line⟩ : Command).departure? host environment with
    | some cause =>
      have whole := Session.account_departs (.stocked directory environment) host prompt ending line
        rest (governs.departs cause departs)
      rw [executedCommands_of_departure departs rest]
      refine ⟨(congrArg Account.starts whole).trans ?_, (congrArg Account.cause whole).trans ?_⟩
      · rw [List.filterMap_eq_flatMap_toList, List.flatMap_cons, List.flatMap_nil, List.append_nil]
        exact here
      · simp [departs]
    | none =>
      obtain ⟨status, returned⟩ := governs.returns departs
      have whole := Session.account_append (.stocked directory environment) host prompt ending
        [line] rest (by simpa [Session.turns] using ⟨status, returned⟩)
      have left : (Session.stocked directory environment).afterLines host [line] =
          .stocked ((⟨directory, line⟩ : Command).next host environment) environment :=
        governs.session
      obtain ⟨starts, cause⟩ := ih ((⟨directory, line⟩ : Command).next host environment)
      rw [left] at whole
      rw [executedCommands_of_stay departs rest]
      refine ⟨(congrArg Account.starts whole).trans ?_, (congrArg Account.cause whole).trans ?_⟩
      · rw [here]
        change _ ++ (Session.consume _ host prompt ending rest).starts = _
        rw [starts, List.filterMap_eq_flatMap_toList, List.filterMap_eq_flatMap_toList,
          List.flatMap_cons]
      · rw [List.findSome?_cons, departs]
        exact cause

theorem Command.departure?_mem {command : Command} {cause : Departure}
    (departs : command.departure? host environment = some cause) :
    cause ∈ [Departure.exit 0, .interrupt, .fault .embeddedNul] := by
  unfold departure? at departs
  split at departs
  · simp_all
  · split at departs
    · simp at departs
    · split at departs
      · simp_all
      · split at departs <;> simp_all

/-- The stock builtins leave the loop in four ways and no other. -/
theorem cause_of_loop (host : Host) (environment : Environment) (directory : Option Text)
    (prompt : Text) (input : Input) :
    ((Session.start host environment directory).loop host prompt input).cause ∈
      [Departure.exit 0, .exit 1, .interrupt, .fault .embeddedNul] := by
  have told := (consume_executedCommands host environment prompt input.ending
    (directory.or host.directory) input.lines).2
  rw [Session.loop_eq_consume]
  change (Session.consume (.stocked _ environment) host prompt input.ending input.lines).cause ∈ _
  rw [told]
  cases left : (executedCommands host environment (directory.or host.directory)
      input.lines).findSome? (Command.departure? host environment) with
  | none => cases input.ending <;> simp [Ending.departure]
  | some cause =>
    obtain ⟨command, -, departs⟩ := List.exists_of_findSome?_eq_some left
    have listed := Command.departure?_mem departs
    simp only [List.mem_cons, List.not_mem_nil, or_false] at listed
    rcases listed with rfl | rfl | rfl <;> simp

/-- A start is asked for exactly when the first token is no builtin and finds a path, and no other
token holds a NUL. -/
theorem Command.start?_eq_some_iff (command : Command) (record : Start) :
    command.start? host environment = some record ↔
      ∃ name arguments path, Tokens.ofLine command.line = name :: arguments ∧
        name ∉ Registry.stock.names ∧
        (command.session environment).findProgram host name = some path ∧
        (∀ argument ∈ arguments, Text.nul ∉ argument) ∧
        record = ⟨path :: arguments, command.directory, environment⟩ := by
  constructor
  · intro asked
    cases tokens : Tokens.ofLine command.line with
    | nil => simp [start?, program?, tokens] at asked
    | cons name arguments =>
      by_cases stock : name ∈ Registry.stock.names
      · simp [start?_of_stock tokens stock] at asked
      · rw [start?, program?_of_absent host environment tokens stock] at asked
        cases search : (command.session environment).findProgram host name with
        | none => simp [search] at asked
        | some path =>
          by_cases nul : HoldNul arguments
          · simp [search, nul] at asked
          · simp only [search, Option.map_some, if_neg nul, Option.some.injEq] at asked
            exact ⟨name, arguments, path, rfl, stock, search, not_holdNul_iff.mp nul, asked.symm⟩
  · rintro ⟨name, arguments, path, tokens, absent, search, clean, rfl⟩
    rw [start?, program?_of_absent host environment tokens absent, search]
    simp only [Option.map_some, if_neg (not_holdNul_iff.mpr clean)]

/-- The starts of a run are those its commands ask for, one each and in order. Every command is an
executed line with the directory of the last successful `cd` before it, or the first directory; a
line that leaves is the last, and without one all lines are executed. -/
theorem starts_of_loop (host : Host) (environment : Environment) (directory : Option Text)
    (prompt : Text) (input : Input) :
    let start := Session.start host environment directory
    let first := directory.or host.directory
    let visited := executedCommands host environment first input.lines
    let executed := fun command : Command =>
      (command.session environment).execute host command.line
    (start.loop host prompt input).starts =
      visited.filterMap (Command.start? host environment) ∧
    (∀ (command : Command) (record : Start), command.start? host environment = some record ↔
      ∃ name arguments path, Tokens.ofLine command.line = name :: arguments ∧
        name ∉ Registry.stock.names ∧
        (command.session environment).findProgram host name = some path ∧
        (∀ argument ∈ arguments, Text.nul ∉ argument) ∧
        record = ⟨path :: arguments, command.directory, environment⟩) ∧
    (∀ before command later, visited = before ++ command :: later →
      (before.map Command.line ++ [command.line]) <+: input.lines ∧
      (∀ passed ∈ before, (executed passed).Returns) ∧
      (¬(executed command).Returns → later = []) ∧
      command.session environment = start.afterLines host (before.map Command.line) ∧
      command.directory =
        ((before.filterMap (Command.moved? host environment)).getLast?).or first) ∧
    ((∀ command ∈ visited, (executed command).Returns) →
      visited.map Command.line = input.lines) := by
  intro start first visited executed
  refine ⟨?_, Command.start?_eq_some_iff, ?_, ?_⟩
  · rw [Session.loop_eq_consume]
    exact (consume_executedCommands host environment prompt input.ending first input.lines).1
  · intro before command later whole
    obtain ⟨rest, read, stayed, left, reached, last⟩ := executedCommands_split whole
    refine ⟨⟨rest, by simp [read]⟩, ?_, ?_, left, reached⟩
    · intro passed member
      exact passed.returns_iff.mpr (stayed passed member)
    · intro leaves
      cases departs : command.departure? host environment with
      | none => exact absurd (command.returns_iff.mpr departs) leaves
      | some cause =>
        rw [departs] at last
        exact last
  · intro returned
    exact executedCommands_complete fun command member =>
      command.returns_iff.mp (returned command member)

end PlainShell
