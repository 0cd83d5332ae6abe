import PlainShell.Proofs.Delivery
import PlainShell.Proofs.Routing

/-!
What running a program comes to. The system decides how the start goes, and that decides the rest:
the bytes that are shown, whether a line follows them, and the status. A status that stays on record
is never negative, and it is zero when there was no line and only then.
-/

namespace PlainShell

namespace Invocation

/-- The line about a program that did not succeed. -/
def complaint (name details : Text) : Text :=
  "Error running external program " ++ name ++ ":" ++ details

/-- How the start of a program goes, the bytes and the line that are shown then, and how the command
ends. -/
inductive Concludes (name : Text) :
    Launch → Bytes → Option Text → Except Departure (Option Int) → Prop where
  | refused (error : SystemError) :
    Concludes name (.failed error) [] (some (complaint name error.message)) (.ok (some 1))
  | interrupted : Concludes name .interrupted [] none (.error .interrupt)
  | succeeded (raw : Bytes) : Concludes name (.ended raw 0) raw none (.ok (some 0))
  | failed (raw : Bytes) (status : Nat) (failure : status ≠ 0) :
    Concludes name (.ended raw status) raw
      (some (complaint name ("exit status " ++ Text.ofInt status))) (.ok (some status))
  | killed (raw : Bytes) (signal : Nat) (sent : signal ≠ 0) :
    Concludes name (.ended raw (-signal)) raw
      (some (complaint name ("signal: " ++ Text.ofInt signal))) (.ok (some (128 + signal)))

/-- A status on record is not negative, and it is zero just when no line was called for. -/
theorem Concludes.code {name : Text} {launch : Launch} {raw : Bytes} {line : Option Text}
    {code : Int} (concludes : Concludes name launch raw line (.ok (some code))) :
    0 ≤ code ∧ (code = 0 ↔ line = none) := by
  cases concludes with
  | refused error => simp
  | succeeded => simp
  | failed _ status failure => simp [failure]
  | killed _ signal sent =>
    refine ⟨by omega, fun zero => ?_, fun absent => by simp at absent⟩
    omega

/-! Statuses of programs: a number from zero on, or the number of a signal with a minus sign. -/

theorem describeExit_nat (status : Nat) :
    describeExit status = "exit status " ++ Text.ofInt status := if_neg (by omega)

theorem shellStatus_nat (status : Nat) : shellStatus status = status := if_neg (by omega)

theorem describeExit_signal {signal : Nat} (sent : signal ≠ 0) :
    describeExit (-signal) = "signal: " ++ Text.ofInt signal := by
  rw [describeExit, if_pos (by omega), Int.neg_neg]

theorem shellStatus_signal {signal : Nat} (sent : signal ≠ 0) :
    shellStatus (-signal) = 128 + signal := by
  rw [shellStatus, if_pos (by omega)]
  omega

example : shellStatus (-9) = 137 := by decide

variable (invocation : Invocation) {host : Host} (session : Session)

theorem writes_conclude (path : Text) (raw : Bytes) (status : Int) :
    (invocation.conclude session path raw status).writes =
      (if raw = [] then [] else [.bytes raw]) ++
        if shellStatus status = 0 then []
        else [.line (complaint invocation.name (describeExit status))] := by
  by_cases silent : raw = [] <;> by_cases success : shellStatus status = 0 <;>
    simp only [Run.writes, conclude, Run.value, silent, success, ↓reduceIte, List.nil_append,
      List.append_nil] <;> rfl

theorem conclude_concludes (path : Text) (raw : Bytes) (status : Int) :
    ∃ line, (invocation.conclude session path raw status).Prints raw line ∧
      Concludes invocation.name (.ended raw status) raw line
        (invocation.conclude session path raw status).outcome := by
  have written := invocation.writes_conclude session path raw status
  have returned : (invocation.conclude session path raw status).outcome =
      .ok (some (shellStatus status)) := rfl
  rw [returned]
  obtain ⟨number, rfl | rfl⟩ := status.eq_nat_or_neg
  · rw [shellStatus_nat, describeExit_nat] at written
    rw [shellStatus_nat]
    by_cases success : number = 0
    · subst success
      exact ⟨none, .of_writes written, .succeeded raw⟩
    · have failure : (number : Int) ≠ 0 := by omega
      rw [if_neg failure] at written
      exact ⟨some _, .of_writes written, .failed raw number success⟩
  · by_cases zero : number = 0
    · subst zero
      exact ⟨none, .of_writes written, .succeeded raw⟩
    · have failure : 128 + (number : Int) ≠ 0 := by omega
      rw [shellStatus_signal zero, describeExit_signal zero, if_neg failure] at written
      rw [shellStatus_signal zero]
      exact ⟨some _, .of_writes written, .killed raw number zero⟩

/-- How the start goes decides what is shown and how the command ends. -/
theorem launch_concludes {path : Text} (clean : ¬HoldNul invocation.arguments)
    (present : host.has path = true) :
    ∃ raw line, (invocation.launch host session path).Prints raw line ∧
      Concludes invocation.name (host.launch session.directory session.environment path) raw line
        (invocation.launch host session path).outcome := by
  rw [launch_of_clean invocation session clean present]
  cases host.launch session.directory session.environment path with
  | failed error => exact ⟨[], _, .of_writes rfl, .refused error⟩
  | interrupted => exact ⟨[], none, .of_writes rfl, .interrupted⟩
  | ended raw status =>
    obtain ⟨line, prints, concludes⟩ := invocation.conclude_concludes session path raw status
    refine ⟨raw, line, .of_writes ?_, concludes⟩
    rw [Run.writes_after]
    exact prints.writes

/-! Searching first. -/

variable (host)

theorem external_of_nothing (missing : session.findProgram host invocation.name = none) :
    invocation.external host session =
      Run.value session [.note (session.searchNote host invocation.name)] none := by
  rw [external, missing]

theorem external_of_found {path : Text}
    (found : session.findProgram host invocation.name = some path) :
    invocation.external host session =
      (invocation.launch host session path).after
        [.note (session.searchNote host invocation.name)] := by
  rw [external, found]

/-- A status of the program is the status of the command, and nothing comes to it. -/
theorem dispatch_of_external (absent : session.builtins.get? invocation.name = none) {code : Int}
    (returned : (invocation.external host session).outcome = .ok (some code)) (line : Text) :
    session.dispatch host (invocation.name :: invocation.arguments) line =
      ⟨(invocation.external host session).events, (invocation.external host session).session,
        .ok code⟩ := by
  simp only [Session.dispatch, absent]
  rw [Run.bind_of_ok _ returned]
  simp only [Run.value, Run.after, List.append_nil]

section Found

variable {path : Text} (found : session.findProgram host invocation.name = some path)
include found

theorem external_of_nul (nul : HoldNul invocation.arguments) :
    (invocation.external host session).Prints [] none ∧
      (invocation.external host session).starts = [] ∧
      (invocation.external host session).outcome = .error (.fault .embeddedNul) := by
  rw [invocation.external_of_found host session found,
    launch_of_nul invocation host session path nul]
  exact ⟨.of_writes rfl, rfl, rfl⟩

theorem external_of_clean (clean : ¬HoldNul invocation.arguments) :
    (invocation.external host session).starts = [invocation.request session path] ∧
      ∃ raw line, (invocation.external host session).Prints raw line ∧
        Concludes invocation.name (host.launch session.directory session.environment path) raw line
          (invocation.external host session).outcome := by
  have present := Session.has_of_findProgram found
  obtain ⟨raw, line, prints, concludes⟩ := invocation.launch_concludes session clean present
  rw [invocation.external_of_found host session found]
  refine ⟨?_, raw, line, .of_writes ?_, concludes⟩
  · rw [Run.starts_after, starts_of_clean invocation session clean present]
    rfl
  · rw [Run.writes_after]
    exact prints.writes

end Found

theorem session_external : (invocation.external host session).session = session := by
  cases search : session.findProgram host invocation.name with
  | none => rw [invocation.external_of_nothing host session search]; rfl
  | some path =>
    rw [invocation.external_of_found host session search]
    exact (invocation.launch_frame host session path).1

/-- Nothing comes back just when nothing is found. -/
theorem external_eq_none_iff :
    (invocation.external host session).outcome = .ok none ↔
      session.findProgram host invocation.name = none := by
  cases search : session.findProgram host invocation.name with
  | none =>
    rw [invocation.external_of_nothing host session search]
    exact iff_of_true rfl rfl
  | some path =>
    rw [invocation.external_of_found host session search]
    exact iff_of_false (invocation.launch_frame host session path).2 (by simp)

/-- A status comes back only from a start, and it goes with what was shown. -/
theorem code_of_external {code : Int}
    (returned : (invocation.external host session).outcome = .ok (some code)) :
    0 ≤ code ∧
      (code = 0 ↔ ∀ text, Event.text text ∉ (invocation.external host session).writes) := by
  cases search : session.findProgram host invocation.name with
  | none =>
    have absent := (invocation.external_eq_none_iff host session).mpr search
    rw [absent] at returned
    simp at returned
  | some path =>
    have clean : ¬HoldNul invocation.arguments := by
      intro nul
      rw [(invocation.external_of_nul host session search nul).2.2] at returned
      simp at returned
    obtain ⟨-, raw, line, prints, concludes⟩ :=
      invocation.external_of_clean host session search clean
    rw [returned] at concludes
    obtain ⟨natural, zero⟩ := concludes.code
    exact ⟨natural, zero.trans prints.line_eq_none_iff⟩

end Invocation

/-- What it comes to when a command is run as a program, for every way the search, the arguments,
the start and the end can turn out. -/
theorem Invocation.external_outcome (invocation : Invocation) (host : Host) (session : Session) :
    let run := invocation.external host session
    run.session = session ∧
    (run.outcome = .ok none ↔ session.findProgram host invocation.name = none) ∧
    (session.findProgram host invocation.name = none → run.Prints [] none ∧ run.starts = []) ∧
    (∀ path, session.findProgram host invocation.name = some path →
      (HoldNul invocation.arguments →
        run.Prints [] none ∧ run.starts = [] ∧ run.outcome = .error (.fault .embeddedNul)) ∧
      (¬HoldNul invocation.arguments →
        run.starts = [⟨path :: invocation.arguments, session.directory, session.environment⟩] ∧
        ∃ raw line, run.Prints raw line ∧
          Concludes invocation.name (host.launch session.directory session.environment path) raw
            line run.outcome)) ∧
    (∀ code, run.outcome = .ok (some code) →
      0 ≤ code ∧ (code = 0 ↔ ∀ text, Event.text text ∉ run.writes) ∧
      (session.builtins.get? invocation.name = none → ∀ line,
        session.dispatch host (invocation.name :: invocation.arguments) line =
          ⟨run.events, session, .ok code⟩)) := by
  intro run
  refine ⟨invocation.session_external host session, invocation.external_eq_none_iff host session,
    fun missing => ?_, fun path found => ⟨invocation.external_of_nul host session found,
      invocation.external_of_clean host session found⟩, fun code returned => ?_⟩
  · have whole : run = _ := invocation.external_of_nothing host session missing
    rw [whole]
    -- A search that fails leaves a note, which is neither a write nor a start.
    cases told : session.searchNote host invocation.name <;> exact ⟨.of_writes rfl, rfl⟩
  · obtain ⟨natural, zero⟩ := invocation.code_of_external host session returned
    refine ⟨natural, zero, fun absent line => ?_⟩
    have routed := invocation.dispatch_of_external host session absent returned line
    rw [invocation.session_external host session] at routed
    exact routed

end PlainShell
