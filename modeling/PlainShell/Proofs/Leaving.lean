import PlainShell.Proofs.Complaint
import PlainShell.Proofs.ExecutedCommands
import PlainShell.Proofs.Launching

/-!
How the loop is left on a machine that interrupts no program, with input that is not interrupted
either. One kind of line is in the way of the two exits that are meant: a program that is found,
with a NUL in an argument. The system is never asked to start it, and the fault goes through the
loop.
-/

namespace PlainShell

def Node.interrupts : Node → Bool
  | .file .interrupted => true
  | _ => false

namespace Host

/-- No program is interrupted, wherever it is started. -/
def NeverInterrupts (host : Host) : Prop :=
  ∀ directory environment path, host.launch directory environment path ≠ .interrupted

/-- The files alone tell that no program is interrupted. -/
theorem neverInterrupts_of_files {host : Host}
    (files : ∀ entry ∈ host.files, entry.2.interrupts = false) : host.NeverInterrupts := by
  intro directory environment path launched
  obtain ⟨attempt, -, met⟩ := met_of_interrupted launched
  obtain ⟨place, -, node⟩ := Option.bind_eq_some_iff.mp met
  rw [nodeAt_entered] at node
  unfold nodeAt at node
  split at node
  · next found looked =>
    obtain ⟨before, later, split, -⟩ := List.lookup_eq_some_iff.mp looked
    have clear := files (place, found) (by rw [split]; simp)
    rw [Option.some.inj node] at clear
    simp [Node.interrupts] at clear
  · split at node <;> simp at node

end Host

namespace Command

/-- The line names a program that is found, and gives it an argument with a NUL. -/
def Spoiled (host : Host) (environment : Environment) (command : Command) : Prop :=
  ∃ found ∈ command.program? host environment, HoldNul found.2

instance (host : Host) (environment : Environment) (command : Command) :
    Decidable (command.Spoiled host environment) :=
  inferInstanceAs (Decidable (∃ found ∈ command.program? host environment, HoldNul found.2))

variable {host : Host}

theorem not_spoiled_of_exit (host : Host) (environment : Environment) {command : Command}
    (leaves : (Tokens.ofLine command.line).head? = some Session.exitWord) :
    ¬command.Spoiled host environment := by
  rintro ⟨found, program, -⟩
  cases tokens : Tokens.ofLine command.line with
  | nil => simp [tokens] at leaves
  | cons name arguments =>
    have same : name = Session.exitWord := by simpa [tokens] using leaves
    rw [program?_of_stock tokens (same ▸ by decide)] at program
    simp at program

theorem departure?_of_quiet (quiet : host.NeverInterrupts) (environment : Environment)
    (command : Command) :
    command.departure? host environment =
      if (Tokens.ofLine command.line).head? = some Session.exitWord then some (.exit 0)
      else if command.Spoiled host environment then some (.fault .embeddedNul)
      else none := by
  unfold departure?
  by_cases leaves : (Tokens.ofLine command.line).head? = some Session.exitWord
  · rw [if_pos leaves, if_pos leaves]
  · rw [if_neg leaves, if_neg leaves]
    cases program : command.program? host environment with
    | none =>
      have unspoiled : ¬command.Spoiled host environment := by simp [Spoiled, program]
      rw [if_neg unspoiled]
    | some found =>
      obtain ⟨path, arguments⟩ := found
      have spoiled : command.Spoiled host environment ↔ HoldNul arguments := by
        simp [Spoiled, program]
      simp only [spoiled]
      split
      · rfl
      · cases launched : host.launch command.directory environment path with
        | interrupted => exact absurd launched (quiet command.directory environment path)
        | failed error => rfl
        | ended output status => rfl

end Command

/-- What ends the lines is told by their first tokens and by the spoiled ones among the commands. -/
theorem findSome?_executedCommands {host : Host} (quiet : host.NeverInterrupts)
    (environment : Environment) (directory : Option Text) (lines : List Text) :
    (executedCommands host environment directory lines).findSome?
        (Command.departure? host environment) =
      if ∃ command ∈ executedCommands host environment directory lines,
          command.Spoiled host environment then
        some (.fault .embeddedNul)
      else if ∃ line ∈ lines, (Tokens.ofLine line).head? = some Session.exitWord then some (.exit 0)
      else none := by
  induction lines generalizing directory with
  | nil => simp [executedCommands]
  | cons line rest ih =>
    have told := Command.departure?_of_quiet quiet environment ⟨directory, line⟩
    by_cases leaves : (Tokens.ofLine line).head? = some Session.exitWord
    · have kept : ¬(⟨directory, line⟩ : Command).Spoiled host environment :=
        Command.not_spoiled_of_exit host environment leaves
      rw [if_pos leaves] at told
      rw [executedCommands_of_departure told rest]
      simp [told, kept, leaves]
    · rw [if_neg leaves] at told
      by_cases spoiled : (⟨directory, line⟩ : Command).Spoiled host environment
      · rw [if_pos spoiled] at told
        rw [executedCommands_of_departure told rest]
        simp [told, spoiled]
      · rw [if_neg spoiled] at told
        rw [executedCommands_of_stay told rest, List.findSome?_cons, told, ih]
        simp [spoiled, leaves]

/-- A stripped line leaves by its first word exactly when its first token is the same word. -/
theorem Input.firstWord_eq_exit_iff {input : Input} {line : Text} (read : line ∈ input.lines) :
    Tokens.firstWord line = Session.exitWord ↔
      (Tokens.ofLine line).head? = some Session.exitWord := by
  constructor
  · intro first
    exact Tokens.head?_ofLine_of_firstWord first (by decide)
  · intro head
    obtain ⟨piece, -, rfl⟩ := List.mem_map.mp read
    refine Tokens.firstWord_of_head?_ofLine ?_ head
    intro space
    have visible := Text.head?_strip space
    exact absurd visible (by decide)

/-- All that happens in the line of a command happens in the loop, with nothing in between. -/
theorem events_of_command {host : Host} {environment : Environment} {command : Command}
    {directory : Option Text} {lines : List Text} (prompt : Text) (ending : Ending)
    (member : command ∈ executedCommands host environment directory lines) :
    ((command.session environment).execute host command.line).events <:+:
      ((Session.stocked directory environment).consume host prompt ending lines).events := by
  induction lines generalizing directory with
  | nil => simp [executedCommands] at member
  | cons line rest ih =>
    have governs := (⟨directory, line⟩ : Command).execute_governs host environment
    cases departs : (⟨directory, line⟩ : Command).departure? host environment with
    | some cause =>
      rw [executedCommands_of_departure departs rest] at member
      obtain rfl := List.mem_singleton.mp member
      have ended : ((Session.stocked directory environment).execute host line).outcome =
          .error cause := governs.departs cause departs
      rw [Session.consume_of_error _ host prompt ending rest ended]
      exact List.suffix_append .. |>.isInfix
    | none =>
      obtain ⟨status, ended⟩ :
          ((Session.stocked directory environment).execute host line).Returns :=
        governs.returns departs
      rw [executedCommands_of_stay departs rest] at member
      have left : ((Session.stocked directory environment).execute host line).session =
          .stocked ((⟨directory, line⟩ : Command).next host environment) environment :=
        governs.session
      rw [Session.consume_of_ok _ host prompt ending rest ended, Run.events_after, left]
      rcases List.mem_cons.mp member with rfl | further
      · exact ⟨Session.promptEvents prompt, _, List.append_assoc .. |>.symm⟩
      · exact (ih further).trans (List.suffix_append ..).isInfix

/-- The status that the loop is meant to leave with: 0 for an exit line, 1 for the end of input. -/
def exitStatus (lines : List Text) : Int :=
  if ∃ line ∈ lines, Tokens.firstWord line = Session.exitWord then 0 else 1

/-- With nothing interrupted, the loop ends in the fault of a spoiled line or in the exit. -/
theorem outcome_of_loop {host : Host} (quiet : host.NeverInterrupts) (environment : Environment)
    (directory : Option Text) (prompt : Text) {input : Input}
    (settled : input.ending ≠ .interrupted) :
    ((Session.start host environment directory).loop host prompt input).outcome =
      if ∃ command ∈ executedCommands host environment (directory.or host.directory) input.lines,
          command.Spoiled host environment then
        .error (.fault .embeddedNul)
      else .error (.exit (exitStatus input.lines)) := by
  have ending : input.ending.departure = .exit 1 := by
    cases kind : input.ending with
    | interrupted => exact absurd kind settled
    | exhausted => rfl
    | failed details => rfl
  have exits : (∃ line ∈ input.lines, Tokens.firstWord line = Session.exitWord) ↔
      ∃ line ∈ input.lines, (Tokens.ofLine line).head? = some Session.exitWord :=
    exists_congr fun line => and_congr_right Input.firstWord_eq_exit_iff
  have cause := (consume_executedCommands host environment prompt input.ending
    (directory.or host.directory) input.lines).2
  rw [findSome?_executedCommands quiet, ending] at cause
  rw [Run.outcome_eq_cause, Session.loop_eq_consume]
  refine (congrArg Except.error cause).trans ?_
  simp only [exitStatus, exits]
  split
  · rfl
  · split <;> rfl

/-- With nothing interrupted, the loop ends in the exit that is meant exactly when no executed line
is spoiled: with 0 if there is an exit line, else with 1. A spoiled line ends it in the fault. Up to
there every failed line is answered and the next line is executed. -/
theorem loop_exits_iff (host : Host) (environment : Environment) (directory : Option Text)
    (prompt : Text) (input : Input) (quiet : host.NeverInterrupts)
    (settled : input.ending ≠ .interrupted) :
    let first := directory.or host.directory
    let visited := executedCommands host environment first input.lines
    let executed := fun command : Command =>
      (command.session environment).execute host command.line
    let run := (Session.start host environment directory).loop host prompt input
    (run.outcome = .error (.exit (exitStatus input.lines)) ↔
      ∀ command ∈ visited, ¬command.Spoiled host environment) ∧
    (run.outcome = .error (.fault .embeddedNul) ↔
      ∃ command ∈ visited, command.Spoiled host environment) ∧
    (∀ before command later complaint, visited = before ++ command :: later →
      command.complaint? host environment = some complaint →
      (executed command).outcome = .ok complaint.status ∧ complaint.status ≠ 0 ∧
      Event.line complaint.message ∈ (executed command).events ∧
      (executed command).events <:+: run.events ∧
      later.head?.map Command.line = input.lines[before.length + 1]?) := by
  intro first visited executed run
  have outcome : run.outcome =
      if ∃ command ∈ visited, command.Spoiled host environment then .error (.fault .embeddedNul)
      else .error (.exit (exitStatus input.lines)) :=
    outcome_of_loop quiet environment directory prompt settled
  refine ⟨?_, ?_, ?_⟩
  · rw [outcome]
    constructor
    · intro exited command member spoiled
      rw [if_pos ⟨command, member, spoiled⟩] at exited
      simp at exited
    · intro clean
      apply if_neg
      rintro ⟨command, member, spoiled⟩
      exact clean command member spoiled
  · rw [outcome]
    constructor
    · intro faulted
      by_contra clean
      rw [if_neg clean] at faulted
      simp at faulted
    · intro spoiled
      exact if_pos spoiled
  · intro before command later complaint split made
    have stays := Command.departure?_of_complaint made
    have answers := Command.execute_answers stays
    have ended := answers.status
    rw [made] at ended
    have member : command ∈ executedCommands host environment first input.lines := by
      change command ∈ visited
      simp [split]
    obtain ⟨rest, read, -, -, -, last⟩ := executedCommands_split split
    refine ⟨ended, answers.failed complaint made, answers.said complaint made, ?_, ?_⟩
    · change _ <:+: (Session.loop _ host prompt input).events
      rw [Session.loop_eq_consume]
      exact events_of_command prompt input.ending member
    · rw [stays] at last
      rw [last, head?_executedCommands, read, List.getElem?_append_right (by simp), List.length_map,
        Nat.add_sub_cancel_left, List.getElem?_cons_succ, List.head?_eq_getElem?]

/-- Failed lines are answered on the way to the exit. -/
theorem loop_exits_after_failures :
    let host := Host.lone (.ends [] 3)
    let environment : Environment := Table.ofList [("PATH", "/bin")]
    let input := Input.ofBytes (Utf8.encode "p x\ncd nowhere\nexit\n") .exhausted
    let run := (Session.start host environment none).loop host "$ " input
    host.NeverInterrupts ∧ input.ending ≠ .interrupted ∧ run.outcome = .error (.exit 0) ∧
      Event.line "cd: nowhere: No such file or directory" ∈ run.events := by
  intro host environment input run
  have quiet : host.NeverInterrupts := Host.neverInterrupts_of_files (by decide)
  have settled : input.ending ≠ .interrupted := by decide
  obtain ⟨exits, -, answered⟩ :=
    loop_exits_iff host environment none "$ " input quiet settled
  have clean : ∀ command ∈ executedCommands host environment (some "/") input.lines,
      ¬command.Spoiled host environment := by decide
  have meant : exitStatus input.lines = 0 := by decide
  have failed := answered [⟨some "/", "p x"⟩] ⟨some "/", "cd nowhere"⟩ [⟨some "/", "exit"⟩]
    ⟨"cd: nowhere: No such file or directory", 1⟩ (by decide) (by decide)
  obtain ⟨-, -, said, within, -⟩ := failed
  refine ⟨quiet, settled, ?_, within.subset said⟩
  rw [meant] at exits
  exact exits.mpr clean

/-- One NUL in an argument, and the loop is left by neither exit. -/
theorem loop_faults_at_nul :
    let host := Host.lone (.ends [] 0)
    let environment : Environment := Table.ofList [("PATH", "/bin")]
    let input := Input.ofBytes (Utf8.encode "p a\x00b\n") .exhausted
    let run := (Session.start host environment none).loop host "$ " input
    host.NeverInterrupts ∧ input.ending ≠ .interrupted ∧
      ¬∃ code, run.outcome = .error (.exit code) := by
  intro host environment input run
  refine ⟨Host.neverInterrupts_of_files (by decide), by decide, ?_⟩
  have faulted : run.outcome = .error (.fault .embeddedNul) := by
    change (Session.loop _ host "$ " input).outcome = _
    rw [Session.loop_eq_consume]
    decide
  rintro ⟨code, exited⟩
  rw [faulted] at exited
  simp at exited

end PlainShell
