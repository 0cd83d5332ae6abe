import PlainShell.Loop
import PlainShell.Proofs.Delivery
import PlainShell.Proofs.Octets
import PlainShell.Proofs.Routing

/-!
A handler that fails stays contained in its command. All that it had written remains, one line tells
of the failure, and the command has the status 1. An exit and an interrupt go through as they are.
So a registered handler can leave the shell on purpose only, and the next line finds the session as
the handler has left it.
-/

namespace PlainShell

namespace Invocation

/-- The status on record after a command, given the one before it. A departure sets none. -/
def recordAfter (before : Int) (performed : Run Int) : Int :=
  match performed.outcome with
  | .ok status => status
  | .error _ => before

theorem recordedStatus_eq (performed : Run Int) :
    recordedStatus performed = recordAfter 0 performed := rfl

/-- What the end of a handler comes to: the lines that are added, how the command ends, and the
status on record then. -/
inductive Settles (name : Text) (before : Int) :
    Except Departure Int → List Text → Except Departure Int → Int → Prop where
  | returned (status : Int) : Settles name before (.ok status) [] (.ok status) status
  | failed (fault : Fault) :
    Settles name before (.error (.fault fault))
      ["Error executing '" ++ name ++ "': " ++ fault.message] (.ok 1) 1
  | exited (code : Int) :
    Settles name before (.error (.exit code)) [] (.error (.exit code)) before
  | interrupted : Settles name before (.error .interrupt) [] (.error .interrupt) before

theorem Settles.ne_fault {name : Text} {before record : Int} {ending outcome : Except Departure Int}
    {added : List Text} (settles : Settles name before ending added outcome record)
    (fault : Fault) : outcome ≠ .error (.fault fault) := by
  cases settles <;> nofun

/-- The run is the attempt, settled. -/
structure Contains (name : Text) (attempted run : Run Int) : Prop where
  session : run.session = attempted.session
  starts : run.starts = attempted.starts
  settles : ∃ added,
    (∀ before, Settles name before attempted.outcome added run.outcome (recordAfter before run)) ∧
      run.writes = attempted.writes ++ added.map Event.line

/-- Whatever a handler does and however it ends, it is contained. -/
theorem perform_contains (invocation : Invocation) (host : Host) (handler : Option Handler)
    (session : Session) :
    Contains invocation.name (invocation.attempt host handler session)
      (invocation.perform host handler session) := by
  rw [perform]
  cases ended : (invocation.attempt host handler session).outcome with
  | ok status =>
    refine ⟨rfl, ?_, [], fun before => ?_, ?_⟩
    · simp [Run.starts, Run.value, Event.start?]
    · rw [ended]
      exact .returned status
    · simp [Run.writes, Run.value, Event.isWrite]
  | error cause =>
    cases cause with
    | fault fault =>
      refine ⟨rfl, ?_, ["Error executing '" ++ invocation.name ++ "': " ++ fault.message],
        fun before => ?_, ?_⟩
      · simp [Run.starts, Run.value, failureLine, Event.line, Event.start?]
      · rw [ended]
        exact .failed fault
      · exact List.filter_append ..
    | exit code =>
      refine ⟨rfl, rfl, [], fun before => ?_, (List.append_nil _).symm⟩
      simp only [recordAfter, ended]
      exact .exited code
    | interrupt =>
      refine ⟨rfl, rfl, [], fun before => ?_, (List.append_nil _).symm⟩
      simp only [recordAfter, ended]
      exact .interrupted

theorem Contains.ne_fault {name : Text} {attempted run : Run Int}
    (contains : Contains name attempted run) (fault : Fault) :
    run.outcome ≠ .error (.fault fault) := by
  obtain ⟨added, settled, -⟩ := contains.settles
  exact (settled 0).ne_fault fault

/-- The handler writes these lines and ends so. One that is missing writes nothing, and to call it
is a fault. -/
inductive Scripted : Option Handler → List Text → Except Departure Int → Prop where
  | script (lines : List Text) (ending : Except Departure Int) :
    Scripted (some (.script lines ending)) lines ending
  | missing : Scripted none [] (.error (.fault .noHandler))

namespace Scripted

variable {handler : Option Handler} {lines : List Text} {ending : Except Departure Int}

theorem attempt_eq (scripted : Scripted handler lines ending) (invocation : Invocation)
    (host : Host) (session : Session) :
    invocation.attempt host handler session = ⟨lines.map Event.line, session, ending⟩ := by
  cases scripted with
  | script lines ending => rfl
  | missing => rfl

theorem ofBuiltin_perform (scripted : Scripted handler lines ending) (invocation : Invocation)
    (host : Host) (session : Session) :
    ∀ event ∈ (invocation.perform host handler session).events, event.ofBuiltin = true := by
  cases scripted with
  | script lines ending => exact invocation.ofBuiltin_perform host _ session
  | missing => simp [perform, attempt, Run.departure, Run.value, failureLine, Event.line,
      Event.ofBuiltin]

end Scripted

theorem starts_lines (lines : List Text) : (lines.map Event.line).filterMap Event.start? = [] := by
  simp [List.filterMap_map, Event.line, Event.start?, Function.comp_def]

theorem writes_lines (lines : List Text) :
    (lines.map Event.line).filter Event.isWrite = lines.map Event.line := by
  simp [List.filter_eq_self, Event.line, Event.isWrite]

theorem octets_lines (lines : List Text) :
    (lines.map Event.line).flatMap Event.octets =
      lines.flatMap fun text => Utf8.encode (text ++ "\n") := List.flatMap_map ..

end Invocation

namespace Output

theorem taken_accept_of_builtin (output : Output) {event : Event} (text : event.ofBuiltin = true) :
    (output.accept event).taken = output.taken ++ event.octets := by
  cases output with
  | memory held =>
    have direct : (memory held).TakesBytes := trivial
    exact (taken_accept direct event).2
  | layered spill target queue =>
    have direct : (layered spill target queue).TakesBytes := trivial
    exact (taken_accept direct event).2
  | textual shown =>
    cases event with
    | text value => simp [accept, writeText, taken, content, queued, Event.octets,
        Utf8.encode_append]
    | bytes value => simp [Event.ofBuiltin] at text
    | flush | read | start record | note value => exact (List.append_nil _).symm

/-- What builtins write reaches every output as it is: there are no bytes in it to decode. -/
theorem taken_deliver_of_builtin (output : Output) {events : List Event}
    (texts : ∀ event ∈ events, event.ofBuiltin = true) :
    (output.deliver events).taken = output.taken ++ events.flatMap Event.octets := by
  induction events generalizing output with
  | nil => exact (List.append_nil _).symm
  | cons event rest ih =>
    obtain ⟨here, later⟩ := List.forall_mem_cons.mp texts
    calc
      _ = (output.accept event).taken ++ rest.flatMap Event.octets := ih _ later
      _ = output.taken ++ (event :: rest).flatMap Event.octets := by
        rw [output.taken_accept_of_builtin here, List.flatMap_cons, List.append_assoc]

end Output

namespace Session

variable {session : Session} {host : Host} {line : Text}

section Registered

variable {name : Text} {arguments : List Text} {handler : Handler}
  (tokens : Tokens.ofLine line = name :: arguments)
  (registered : session.builtins.get? name = some handler)
include tokens registered

/-- The first token finds its handler, unless the first word has left the shell already. -/
theorem execute_of_registered (stays : Tokens.firstWord line ≠ exitWord) :
    session.execute host line =
      ((⟨name, arguments⟩ : Invocation).perform host (some handler) session).after
        [.note (.routedToBuiltin name)] := by
  rw [execute, if_neg stays, tokens, dispatch_builtin registered]

theorem execute_ne_fault (fault : Fault) :
    (session.execute host line).outcome ≠ .error (.fault fault) := by
  by_cases leaves : Tokens.firstWord line = exitWord
  · rw [execute, if_pos leaves]
    simp [Run.departure]
  · rw [execute_of_registered tokens registered leaves, Run.outcome_after]
    exact (Invocation.perform_contains _ host (some handler) session).ne_fault fault

/-- A line that returns leaves the session as its handler has left it. -/
theorem session_of_registered {status : Int}
    (returned : (session.execute host line).outcome = .ok status) :
    (session.execute host line).session = (handler.run host session arguments).session := by
  have stays : Tokens.firstWord line ≠ exitWord := by
    intro leaves
    rw [execute, if_pos leaves] at returned
    simp [Run.departure] at returned
  rw [execute_of_registered tokens registered stays, Run.session_after]
  exact (Invocation.perform_contains _ host (some handler) session).session

end Registered

/-- After a line that returns the loop goes on in the session that the line has left. -/
theorem loop_of_returned {prompt : Text} {input rest : Input} {status : Int}
    (read : input.next = .line line rest)
    (returned : (session.execute host line).outcome = .ok status) :
    session.loop host prompt input =
      ((session.execute host line).session.loop host prompt rest).after
        (promptEvents prompt ++ (session.execute host line).events ++
          [.note (.finished line status)]) := by
  rw [loop]
  split
  · next details failed => simp [read] at failed
  · next interrupted => simp [read] at interrupted
  · next first later same =>
    obtain ⟨rfl, rfl⟩ : line = first ∧ rest = later := by simpa [read] using same
    rw [Run.bind_of_ok _ returned]
    simp only [Run.after, List.append_assoc]

end Session

open Invocation in
/-- Every handler is contained, for any table of builtins. One that writes lines and then ends in
some way, or is missing, keeps its lines in the output, and what follows them goes by how it ends:
nothing after a status, which becomes the status of the command and the one on record; one line
after a fault, whatever code the fault has, and both are 1; nothing after an exit or an interrupt,
which go through and leave the record alone. So no fault comes out of a line whose first token is
registered, and the loop goes on in the session that the handler has left. -/
theorem failures_are_contained (host : Host) (session : Session) :
    (∀ (invocation : Invocation) handler lines ending, Scripted handler lines ending →
      let run := invocation.perform host handler session
      run.session = session ∧ run.starts = [] ∧ ∃ added,
        (∀ before, Settles invocation.name before ending added run.outcome
          (recordAfter before run)) ∧
        run.writes = (lines ++ added).map Event.line ∧
        ∀ output : Output, (output.deliver run.events).taken =
          output.taken ++ (lines ++ added).flatMap fun text => Utf8.encode (text ++ "\n")) ∧
    (∀ (invocation : Invocation) handler,
      let run := invocation.perform host handler session
      Contains invocation.name (invocation.attempt host handler session) run ∧
        recordedStatus run = recordAfter 0 run) ∧
    ∀ line name arguments handler, Tokens.ofLine line = name :: arguments →
      session.builtins.get? name = some handler →
      let turn := session.execute host line
      (∀ fault, turn.outcome ≠ .error (.fault fault)) ∧
      (Tokens.firstWord line ≠ Session.exitWord →
        turn = ((⟨name, arguments⟩ : Invocation).perform host (some handler) session).after
          [.note (.routedToBuiltin name)]) ∧
      ∀ status, turn.outcome = .ok status →
        turn.session = (handler.run host session arguments).session ∧
        ∀ prompt (input rest : Input), input.next = .line line rest →
          session.loop host prompt input = (turn.session.loop host prompt rest).after
            (Session.promptEvents prompt ++ turn.events ++ [.note (.finished line status)]) := by
  refine ⟨?_, ?_, ?_⟩
  · intro invocation handler lines ending scripted run
    have contains : Contains invocation.name _ run :=
      invocation.perform_contains host handler session
    rw [scripted.attempt_eq invocation host session] at contains
    obtain ⟨added, settled, written⟩ := contains.settles
    have writes : run.writes = (lines ++ added).map Event.line := by
      rw [written, Run.writes, writes_lines, List.map_append]
    refine ⟨contains.session, contains.starts.trans (starts_lines lines), added, settled, writes,
      fun output => ?_⟩
    rw [output.taken_deliver_of_builtin (scripted.ofBuiltin_perform invocation host session),
      ← Run.octets_writes, ← octets_lines]
    exact congrArg (fun events => output.taken ++ events.flatMap Event.octets) writes
  · exact fun invocation handler =>
      ⟨invocation.perform_contains host handler session, recordedStatus_eq _⟩
  · intro line name arguments handler tokens registered turn
    refine ⟨Session.execute_ne_fault tokens registered,
      Session.execute_of_registered tokens registered, fun status returned =>
        ⟨Session.session_of_registered tokens registered returned, ?_⟩⟩
    exact fun prompt input rest read => Session.loop_of_returned read returned

/-- The code of a shell error does not become the status. -/
example :
    let broken : Handler := .script ["a"] (.error (.fault (.shell (.plain "b" 42))))
    let run := (⟨"c", []⟩ : Invocation).perform (Host.empty none) (some broken)
      ⟨none, [], Registry.stock⟩
    run.writes = [.line "a", .line "Error executing 'c': b"] ∧ run.outcome = .ok 1 :=
  ⟨rfl, rfl⟩

end PlainShell
