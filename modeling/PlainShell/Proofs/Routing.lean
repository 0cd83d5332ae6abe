import PlainShell.Execute
import PlainShell.Proofs.Effects

/-!
Where a command goes. The first token decides: a handler in the table of builtins is run, a program
that the search finds is started, and any other name is refused. Every route has an equation for the
whole run, and `type` gives the answer that goes with the route.
-/

namespace PlainShell

/-- An argument has a NUL in it, which no program can be given. -/
def HoldNul (arguments : List Text) : Prop := ∃ argument ∈ arguments, Text.nul ∈ argument

instance (arguments : List Text) : Decidable (HoldNul arguments) :=
  inferInstanceAs (Decidable (∃ argument ∈ arguments, Text.nul ∈ argument))

theorem not_holdNul_iff {arguments : List Text} :
    ¬HoldNul arguments ↔ ∀ argument ∈ arguments, Text.nul ∉ argument := by
  simp [HoldNul]

/-- A machine with nothing but one program. -/
def Host.lone (content : Executable) : Host :=
  (Host.empty (some "/")).add "/bin/p" (.file content)

theorem Host.nul_not_mem_of_has {host : Host} {path : Text} (present : host.has path = true) :
    Text.nul ∉ path := by
  intro inside
  have nowhere : host.locate path = none := by
    rw [locate, if_pos (Or.inr inside)]
  simp [has, find?, nowhere] at present

namespace Session

variable {session : Session} {host : Host}

theorem has_of_findProgram {name path : Text} (found : session.findProgram host name = some path) :
    host.has path = true :=
  List.find?_some found

end Session

/-- What a builtin can bring about: texts, and notes of a search or a move. -/
def Event.ofBuiltin : Event → Bool
  | .text _ | .flush | .note (.resolved ..) | .note (.notResolved ..) | .note (.movedTo _) => true
  | .bytes _ | .read | .start _ | .note _ => false

/-- What a program can bring about: writes, its start, and notes of how it went. -/
def Event.ofProgram : Event → Bool
  | .text _ | .bytes _ | .flush | .start _ | .note (.running ..) | .note (.startFailed ..)
  | .note (.ended ..) => true
  | .read | .note _ => false

theorem Session.ofBuiltin_searchNote (session : Session) (host : Host) (name : Text) :
    (Event.note (session.searchNote host name)).ofBuiltin = true := by
  rw [searchNote]
  split <;> rfl

theorem Handler.ofBuiltin_run (handler : Handler) (host : Host) (session : Session)
    (arguments : List Text) :
    ∀ event ∈ (handler.run host session arguments).events, event.ofBuiltin = true := by
  cases handler with
  | echo => simp [run, Session.echo, Run.value, Event.line, Event.ofBuiltin]
  | type =>
    simp only [run, Session.describe]
    split
    · simp [Run.value]
    · next name rest =>
      have noted := session.ofBuiltin_searchNote host name
      split
      · simp [Run.value, Event.line, Event.ofBuiltin]
      · split <;>
          exact List.forall_mem_cons.mpr ⟨noted, by simp [Event.line, Event.ofBuiltin]⟩
  | exit => simp [run, Run.departure, Event.ofBuiltin]
  | pwd =>
    simp only [run, Session.printDirectory]
    split <;> simp [Session.report, Run.value, Event.line, Event.ofBuiltin]
  | cd =>
    simp only [run, Session.enter]
    split
    · simp [Run.value]
    · split <;> simp [Session.report, Run.value, Event.line, Event.ofBuiltin]
  | script lines ending => simp [run, Event.line, Event.ofBuiltin]

namespace Invocation

variable {invocation : Invocation} {host : Host} {session : Session} {path : Text}

/-- The start that the system is asked for. -/
def request (invocation : Invocation) (session : Session) (path : Text) : Start :=
  ⟨path :: invocation.arguments, session.directory, session.environment⟩

/-- What is noted before a start. -/
def announcement (invocation : Invocation) (path : Text) : Event :=
  .note (.running invocation.name path invocation.arguments)

theorem launch_of_nul (invocation : Invocation) (host : Host) (session : Session) (path : Text)
    (nul : HoldNul invocation.arguments) :
    invocation.launch host session path =
      ⟨[invocation.announcement path], session, .error (.fault .embeddedNul)⟩ := by
  obtain ⟨argument, member, inside⟩ := nul
  have some : (path :: invocation.arguments).any (fun argument => Text.nul ∈ argument) = true :=
    List.any_eq_true.mpr ⟨argument, List.mem_cons_of_mem _ member, by simpa using inside⟩
  rw [launch, if_pos some]
  rfl

/-- The end of a program starts nothing. -/
theorem starts_conclude (output : Bytes) (status : Int) :
    (invocation.conclude session path output status).starts = [] := by
  by_cases silent : output = [] <;> by_cases success : shellStatus status = 0 <;>
    simp only [Run.starts, conclude, Run.value, silent, success, ↓reduceIte, List.nil_append,
      List.append_nil] <;> rfl

section Clean

variable (invocation : Invocation) (session : Session)
  (clean : ¬HoldNul invocation.arguments) (present : host.has path = true)
include clean present

/-- Without a NUL the start is asked for, and how it goes decides the rest. -/
theorem launch_of_clean :
    invocation.launch host session path =
      (match host.launch session.directory session.environment path with
        | .failed error =>
          let report := ShellError.externalProgram invocation.name error.message 1
          Run.value session [.note (.startFailed path error.message), .line report.message] (some 1)
        | .interrupted => Run.departure session [] .interrupt
        | .ended output status => invocation.conclude session path output status).after
        [invocation.announcement path, .start (invocation.request session path)] := by
  have none : ¬(path :: invocation.arguments).any (fun argument => Text.nul ∈ argument) = true := by
    intro some
    obtain ⟨argument, member, inside⟩ := List.any_eq_true.mp some
    rcases List.mem_cons.mp member with same | further
    · exact Host.nul_not_mem_of_has present (same ▸ by simpa using inside)
    · exact clean ⟨argument, further, by simpa using inside⟩
  rw [launch, if_neg none]
  cases host.launch session.directory session.environment path <;> rfl

theorem outcome_of_clean :
    (invocation.launch host session path).outcome =
      match host.launch session.directory session.environment path with
      | .failed _ => .ok (some 1)
      | .interrupted => .error .interrupt
      | .ended _ status => .ok (some (shellStatus status)) := by
  rw [launch_of_clean invocation session clean present]
  cases host.launch session.directory session.environment path <;> rfl

theorem starts_of_clean :
    (invocation.launch host session path).starts = [invocation.request session path] := by
  rw [launch_of_clean invocation session clean present]
  cases host.launch session.directory session.environment path with
  | failed error => rfl
  | interrupted => rfl
  | ended output status =>
    rw [Run.starts_after, starts_conclude]
    rfl

end Clean

/-- A launch leaves the session alone and comes back with a status if it comes back. -/
theorem launch_frame (invocation : Invocation) (host : Host) (session : Session) (path : Text) :
    (invocation.launch host session path).session = session ∧
      (invocation.launch host session path).outcome ≠ .ok none := by
  unfold launch
  dsimp only
  split
  · exact ⟨rfl, by simp [Run.departure]⟩
  · cases host.launch session.directory session.environment path with
    | failed error => exact ⟨rfl, by simp [Run.value]⟩
    | interrupted => exact ⟨rfl, by simp [Run.departure]⟩
    | ended output status => exact ⟨rfl, by simp [conclude, Run.value]⟩

theorem ofBuiltin_perform (invocation : Invocation) (host : Host) (handler : Handler)
    (session : Session) :
    ∀ event ∈ (invocation.perform host (some handler) session).events, event.ofBuiltin = true := by
  have own := handler.ofBuiltin_run host session invocation.arguments
  simp only [perform, attempt]
  split
  · simp only [Run.value, List.forall_mem_append]
    exact ⟨own, by simp [Event.ofBuiltin]⟩
  · simp only [Run.value, List.forall_mem_append]
    exact ⟨own, by simp [failureLine, Event.line, Event.ofBuiltin]⟩
  · exact own

theorem read_not_mem_perform (invocation : Invocation) (host : Host) (handler : Handler)
    (session : Session) :
    Event.read ∉ (invocation.perform host (some handler) session).events := by
  intro member
  have told := invocation.ofBuiltin_perform host handler session .read member
  simp [Event.ofBuiltin] at told

theorem ofProgram_conclude (invocation : Invocation) (session : Session) (path : Text)
    (output : Bytes) (status : Int) :
    ∀ event ∈ (invocation.conclude session path output status).events, event.ofProgram = true := by
  have shown : ∀ event ∈ if output = [] then [] else [Event.bytes output],
      event.ofProgram = true := by
    split <;> simp [Event.ofProgram]
  simp only [conclude, Run.value, List.forall_mem_append]
  refine ⟨⟨shown, by simp [Event.ofProgram]⟩, ?_⟩
  split <;> simp [Event.line, Event.ofProgram]

theorem ofProgram_launch (invocation : Invocation) (host : Host) (session : Session)
    (path : Text) :
    ∀ event ∈ (invocation.launch host session path).events, event.ofProgram = true := by
  unfold launch
  dsimp only
  split
  · simp [Run.departure, Event.ofProgram]
  · cases host.launch session.directory session.environment path with
    | failed error => simp [Run.value, Event.line, Event.ofProgram]
    | interrupted => simp [Run.departure, Event.ofProgram]
    | ended output status =>
      simp only [Run.events_after, List.forall_mem_append]
      exact ⟨by simp [Event.ofProgram], invocation.ofProgram_conclude session path output status⟩

theorem read_not_mem_launch (invocation : Invocation) (host : Host) (session : Session)
    (path : Text) : Event.read ∉ (invocation.launch host session path).events := by
  intro member
  have told := invocation.ofProgram_launch host session path .read member
  simp [Event.ofProgram] at told

end Invocation

namespace Session

variable {session : Session} {host : Host} {name : Text}

theorem dispatch_builtin {handler : Handler} (found : session.builtins.get? name = some handler)
    (arguments : List Text) (line : Text) :
    session.dispatch host (name :: arguments) line =
      ((⟨name, arguments⟩ : Invocation).perform host (some handler) session).after
        [.note (.routedToBuiltin name)] := by
  simp only [dispatch, found]

section NoBuiltin

variable (absent : session.builtins.get? name = none)
include absent

theorem dispatch_program {path : Text} (found : session.findProgram host name = some path)
    (arguments : List Text) (line : Text) :
    session.dispatch host (name :: arguments) line =
      let launched := (⟨name, arguments⟩ : Invocation).launch host session path
      ⟨.note (.resolved name path) :: launched.events, session,
        launched.outcome.map (·.getD 0)⟩ := by
  obtain ⟨kept, returned⟩ := Invocation.launch_frame ⟨name, arguments⟩ host session path
  simp only [dispatch, absent, Invocation.external, found, searchNote]
  generalize (⟨name, arguments⟩ : Invocation).launch host session path = launched at kept returned ⊢
  obtain ⟨events, left, outcome⟩ := launched
  obtain rfl : left = session := kept
  cases outcome with
  | error cause => rfl
  | ok status =>
    cases status with
    | none => exact absurd rfl returned
    | some status => simp [Run.bind, Run.after, Run.value, Except.map]

theorem dispatch_nothing (missing : session.findProgram host name = none)
    (arguments : List Text) (line : Text) :
    session.dispatch host (name :: arguments) line =
      Run.value session
        [.note (.notResolved name session.searchDirectories.length), .note (.nothingNamed name),
          .line (ShellError.commandNotFound line).message, .flush] 127 := by
  simp only [dispatch, absent, Invocation.external, missing, searchNote]
  rfl

end NoBuiltin

/-- Only the loop waits for lines. -/
theorem reads_execute (session : Session) (host : Host) (line : Text) :
    (session.execute host line).events.count .read = 0 := by
  apply List.count_eq_zero.mpr
  unfold execute
  split
  · simp [Run.departure]
  · cases Tokens.ofLine line with
    | nil => simp [dispatch, Run.value]
    | cons name arguments =>
      cases table : session.builtins.get? name with
      | some handler =>
        rw [dispatch_builtin table]
        simp [Invocation.read_not_mem_perform]
      | none =>
        cases search : session.findProgram host name with
        | some path =>
          rw [dispatch_program table search]
          simp [Invocation.read_not_mem_launch]
        | none =>
          rw [dispatch_nothing table search]
          simp [Run.value, Event.line]

/-! The answer of `type` and the route of a command with the same name. -/

theorem describe_builtin {handler : Handler} (found : session.builtins.get? name = some handler) :
    session.describe host [name] = Run.value session [.line (name ++ " is a shell builtin")] 0 := by
  simp only [describe, isBuiltin, found, Option.isSome_some, ↓reduceIte]

theorem describe_program {path : Text} (absent : session.builtins.get? name = none)
    (found : session.findProgram host name = some path) :
    session.describe host [name] =
      Run.value session [.note (.resolved name path), .line (name ++ " is " ++ path)] 0 := by
  simp [describe, isBuiltin, absent, searchNote, found]

theorem describe_nothing (absent : session.builtins.get? name = none)
    (missing : session.findProgram host name = none) :
    session.describe host [name] =
      Run.value session [.note (.notResolved name session.searchDirectories.length),
        .line (name ++ ": not found")] 1 := by
  simp [describe, isBuiltin, absent, searchNote, missing]

/-- `type` and a command with the same name take the same one of three ways, whatever the table of
builtins, the search list and the directory are. -/
theorem type_agrees_with_dispatch (session : Session) (host : Host) (name line : Text)
    (arguments : List Text) (clean : ∀ argument ∈ arguments, Text.nul ∉ argument) :
    let answer := Handler.type.run host session [name]
    let routed := session.dispatch host (name :: arguments) line
    (∃ handler, session.builtins.get? name = some handler ∧
      answer.written = Utf8.encode (name ++ " is a shell builtin" ++ "\n") ∧
      answer.outcome = .ok 0 ∧
      routed = ((⟨name, arguments⟩ : Invocation).perform host (some handler) session).after
        [.note (.routedToBuiltin name)]) ∨
    (∃ path, session.builtins.get? name = none ∧ session.findProgram host name = some path ∧
      answer.written = Utf8.encode (name ++ " is " ++ path ++ "\n") ∧
      answer.outcome = .ok 0 ∧
      routed.starts = [⟨path :: arguments, session.directory, session.environment⟩]) ∨
    (session.builtins.get? name = none ∧ session.findProgram host name = none ∧
      answer.written = Utf8.encode (name ++ ": not found" ++ "\n") ∧
      answer.outcome = .ok 1 ∧
      routed.starts = [] ∧ routed.written = Utf8.encode (line ++ ": command not found" ++ "\n") ∧
      routed.outcome = .ok 127) := by
  intro answer routed
  have described : answer = session.describe host [name] := rfl
  cases table : session.builtins.get? name with
  | some handler =>
    have answered := described.trans (describe_builtin table)
    refine Or.inl ⟨handler, rfl, ?_, ?_, dispatch_builtin table arguments line⟩
    · rw [answered, Run.written_value, Event.octets_single_line]
    · rw [answered]
      rfl
  | none =>
    cases search : session.findProgram host name with
    | some path =>
      have answered := described.trans (describe_program table search)
      have unspoiled : ¬HoldNul arguments := not_holdNul_iff.mpr clean
      refine Or.inr (Or.inl ⟨path, rfl, rfl, ?_, ?_, ?_⟩)
      · rw [answered, Run.written_value, Event.octets_note_cons, Event.octets_single_line]
      · rw [answered]
        rfl
      · have routedThere : routed = _ := dispatch_program table search arguments line
        rw [routedThere]
        exact Invocation.starts_of_clean ⟨name, arguments⟩ session unspoiled
          (has_of_findProgram search)
    | none =>
      have answered := described.trans (describe_nothing table search)
      have refused : routed = _ := dispatch_nothing table search arguments line
      refine Or.inr (Or.inr ⟨rfl, rfl, ?_, ?_, ?_, ?_, ?_⟩)
      · rw [answered, Run.written_value, Event.octets_note_cons, Event.octets_single_line]
      · rw [answered]
        rfl
      · rw [refused]
        rfl
      · rw [refused, Run.written_value, Event.octets_note_cons, Event.octets_note_cons]
        simp [Event.line, Event.octets, ShellError.message]
      · rw [refused]
        rfl

/-- A program that is found: `type` names the path that is started. -/
theorem type_agrees_with_dispatch_of_lone :
    let host := Host.lone (.ends [] 0)
    let session := Session.start host (Table.ofList [("PATH", "/bin")]) none
    (∀ argument ∈ ([("x" : Text)] : List Text), Text.nul ∉ argument) ∧
      (Handler.type.run host session ["p"]).written = Utf8.encode "p is /bin/p\n" ∧
      (session.dispatch host ["p", "x"] "p x").starts =
        [⟨["/bin/p", "x"], some "/", Table.ofList [("PATH", "/bin")]⟩] := by
  intro host session
  have clean : ∀ argument ∈ ([("x" : Text)] : List Text), Text.nul ∉ argument := by decide
  have absent : session.builtins.get? "p" = none := by rfl
  have found : session.findProgram host "p" = some "/bin/p" := by decide
  refine ⟨clean, ?_⟩
  rcases type_agrees_with_dispatch session host "p" "p x" ["x"] clean with
    ⟨handler, present, -⟩ | ⟨path, -, search, answered, -, started⟩ | ⟨-, missing, -⟩
  · simp [absent] at present
  · obtain rfl : "/bin/p" = path := Option.some.inj (found.symm.trans search)
    exact ⟨answered, started⟩
  · simp [found] at missing

end Session

end PlainShell
