import PlainShell.Proofs.Complaint
import PlainShell.Proofs.Octets
import PlainShell.Proofs.Queue

/-!
What a line leaves in the queue. A builtin pushes on what it has written, and so does the answer to
a line that names nothing; a line that leaves the shell writes nothing. The output of a program is
pushed on as well. The line about a program that failed comes behind that, and it waits in the queue
for as long as the stream likes. Nothing else does.
-/

namespace PlainShell

namespace Output

theorem deliver_layered (spill : Spill) (target : Array UInt8) (queue : Bytes)
    (events : List Event) :
    ∃ held waiting, (layered spill target queue).deliver events = .layered spill held waiting := by
  induction events generalizing target queue with
  | nil => exact ⟨target, queue, rfl⟩
  | cons event rest ih =>
    cases event with
    | text value | bytes value | flush | read | start record | note value => exact ih _ _

/-- Where nothing waits in the end, the target has taken on all that was written. -/
theorem deliver_of_settled {spill : Spill} {target : Array UInt8} {events : List Event}
    (settled : ((layered spill target []).deliver events).queued = []) :
    (layered spill target []).deliver events =
      .layered spill (target ++ events.flatMap Event.octets) [] := by
  have direct : (layered spill target []).TakesBytes := trivial
  have shows := shows_deliver direct settled
  obtain ⟨held, waiting, whole⟩ := deliver_layered spill target [] events
  rw [whole] at settled shows ⊢
  obtain rfl : waiting = [] := settled
  have same : held.toList = (target ++ events.flatMap Event.octets).toList := by
    simpa [content, taken, queued] using shows.target
  rw [Array.toList_inj.mp same]

/-- A text behind an empty queue is all that can wait. -/
theorem deliver_append_text {spill : Spill} {target : Array UInt8} {events : List Event}
    (settled : ((layered spill target []).deliver events).queued = []) (value : Text) :
    (layered spill target []).deliver (events ++ [.text value]) =
      settle spill (target ++ events.flatMap Event.octets) (Utf8.encode value) := by
  rw [deliver_append, deliver_of_settled settled]
  rfl

end Output

/-- The events leave no stream with a queue that it had not before. -/
def Flushes (events : List Event) : Prop :=
  ∀ output : Output, output.queued = [] → (output.deliver events).queued = []

namespace Flushes

theorem of_silent {events : List Event} (silent : events.flatMap Event.octets = []) :
    Flushes events :=
  fun _ settled => Output.queued_deliver_of_silent settled silent

theorem of_flush (events : List Event) : Flushes (events ++ [.flush]) := by
  intro output _
  rw [Output.deliver_append]
  exact Output.queued_flush _

theorem append {first second : List Event} (front : Flushes first) (back : Flushes second) :
    Flushes (first ++ second) := by
  intro output settled
  rw [Output.deliver_append]
  exact back _ (front output settled)

end Flushes

/-- A builtin that comes back has pushed on all that it wrote. -/
theorem Invocation.flushes_perform (invocation : Invocation) {host : Host} {handler : Handler}
    {session : Session} {status : Int}
    (returned : (invocation.perform host (some handler) session).outcome = .ok status) :
    Flushes (invocation.perform host (some handler) session).events := by
  simp only [perform] at returned ⊢
  split at returned
  · exact .of_flush _
  · next fault ended =>
    have last : (invocation.attempt host (some handler) session).events ++
          [invocation.failureLine fault, .flush] =
        (invocation.attempt host (some handler) session).events ++
          [invocation.failureLine fault] ++ [.flush] := by simp
    rw [Run.value, last]
    exact .of_flush _
  · next departed =>
    rw [departed] at returned
    simp at returned

/-- The output of a program is pushed on before its end is told of. -/
theorem Invocation.conclude_flushes (invocation : Invocation) (session : Session) (path : Text)
    (output : Bytes) (status : Int) :
    ∃ before, Flushes before ∧
      (invocation.conclude session path output status).events =
        before ++ if shellStatus status = 0 then []
          else [.line (ShellError.externalProgram invocation.name (describeExit status)
            (shellStatus status)).message] := by
  refine ⟨_, ?_, rfl⟩
  rw [List.append_cons]
  exact (Flushes.of_flush _).append (.of_silent rfl)

namespace Command

variable {host : Host} {environment : Environment} {command : Command}

/-- What the run of a line may leave in a queue: nothing, or the complaint about a program. -/
inductive Unflushed (host : Host) (environment : Environment) (command : Command) (run : Run Int) :
    Prop where
  | nothing (flushes : Flushes run.events)
      (sound : run.starts ≠ [] → ∀ status, run.outcome = .ok status → status = 0)
  | complaint {complaint : Complaint} {before : List Event} (started : run.starts ≠ [])
      (made : command.complaint? host environment = some complaint)
      (whole : run.events = before ++ [.line complaint.message]) (flushes : Flushes before)

theorem unflushed_of_stock {name : Text} {arguments : List Text}
    (tokens : Tokens.ofLine command.line = name :: arguments) (stock : name ∈ Registry.stock.names)
    (stays : command.departure? host environment = none) :
    command.Unflushed host environment
      ((command.session environment).execute host command.line) := by
  have governs := command.execute_governs host environment
  have other : name ≠ Session.exitWord := by
    rintro rfl
    simp [departure?, tokens] at stays
  obtain ⟨handler, found⟩ : ∃ handler, Registry.stock.get? name = some handler :=
    Option.isSome_iff_exists.mp ((Session.isBuiltin_stocked none environment name).mpr stock)
  have started := governs.starts
  obtain ⟨status, returned⟩ := governs.returns stays
  rw [start?_of_stock tokens stock] at started
  have run := execute_of_ne tokens host environment other
  rw [Session.dispatch_builtin found] at run
  rw [run] at started returned ⊢
  refine .nothing ?_ fun starts => absurd started starts
  exact (Flushes.of_silent rfl).append (Invocation.flushes_perform _ returned)

/-- A program that the line finds and starts. -/
theorem unflushed_of_found {name path : Text} {arguments : List Text}
    (tokens : Tokens.ofLine command.line = name :: arguments) (absent : name ∉ Registry.stock.names)
    (found : (command.session environment).findProgram host name = some path)
    (stays : command.departure? host environment = none) :
    command.Unflushed host environment
      ((command.session environment).execute host command.line) := by
  obtain ⟨clean, ends⟩ := launches_of_stay tokens absent found stays
  have made := complaint?_of_absent tokens absent stays
  rw [found] at made
  have started : ((command.session environment).execute host command.line).starts ≠ [] := by
    rw [starts_of_found host environment tokens absent found clean]
    exact List.cons_ne_nil _ _
  have launch := Invocation.launch_of_clean ⟨name, arguments⟩ (command.session environment) clean
    (Session.has_of_findProgram found)
  have run := execute_of_found host environment tokens absent found
  rw [directory_session, environment_session] at launch
  rw [launch] at run
  cases launched : host.launch command.directory environment path with
  | interrupted => exact absurd launched ends
  | failed error =>
    simp only [programComplaint?, launched] at made
    rw [launched] at run
    have silent : Flushes [.note (.resolved name path),
        (⟨name, arguments⟩ : Invocation).announcement path,
        .start ((⟨name, arguments⟩ : Invocation).request (command.session environment) path),
        .note (.startFailed path error.message)] := .of_silent rfl
    exact .complaint started made (congrArg Run.events run) silent
  | ended output status =>
    simp only [programComplaint?, launched] at made
    rw [launched] at run
    obtain ⟨shown, flushes, concluded⟩ := (⟨name, arguments⟩ : Invocation).conclude_flushes
      (command.session environment) path output status
    have silent : Flushes [.note (.resolved name path),
        (⟨name, arguments⟩ : Invocation).announcement path,
        .start ((⟨name, arguments⟩ : Invocation).request (command.session environment) path)] :=
      .of_silent rfl
    have events : ((command.session environment).execute host command.line).events = _ :=
      congrArg Run.events run
    simp only [Run.events_after, concluded] at events
    by_cases success : status = 0
    · have quiet : shellStatus status = 0 := (shellStatus_eq_zero_iff status).mpr success
      rw [if_pos quiet, List.append_nil] at events
      refine .nothing (events ▸ silent.append flushes) fun _ left returned => ?_
      have ended : ((command.session environment).execute host command.line).outcome =
          .ok (shellStatus status) := congrArg Run.outcome run
      rw [← Except.ok.inj (ended.symm.trans returned), quiet]
    · have loud : ¬shellStatus status = 0 := mt (shellStatus_eq_zero_iff status).mp success
      rw [if_neg success] at made
      rw [if_neg loud] at events
      exact .complaint started made (events.trans (by simp)) (silent.append flushes)

/-- The line itself tells what is left of it. -/
theorem execute_unflushed (host : Host) (environment : Environment) (command : Command) :
    command.Unflushed host environment
      ((command.session environment).execute host command.line) := by
  cases departs : command.departure? host environment with
  | some cause =>
    have departed := (command.execute_governs host environment).departs cause departs
    have silent := Session.silent_execute Registry.isDiscreet_stock departed
    rw [Run.written_eq_octets] at silent
    refine .nothing (.of_silent silent) fun _ status returned => ?_
    rw [departed] at returned
    simp at returned
  | none =>
    cases tokens : Tokens.ofLine command.line with
    | nil =>
      rw [execute_of_head host environment (by simp [tokens]), tokens, Session.dispatch]
      exact .nothing (.of_silent rfl) fun starts => absurd rfl starts
    | cons name arguments =>
      by_cases stock : name ∈ Registry.stock.names
      · exact unflushed_of_stock tokens stock departs
      · cases search : (command.session environment).findProgram host name with
        | some path => exact unflushed_of_found tokens stock search departs
        | none =>
          rw [execute_of_missing host environment tokens stock search]
          exact .nothing (Flushes.of_flush [_, _, _]) fun starts => absurd rfl starts

end Command

/-- What a line writes has arrived when the line is done, but for the line about a program that was
started and failed. Take any stream over bytes with nothing in its queue. The queue is empty again
on every such stream unless a program was started and the status is not zero; then the target holds
all else that was written, and of the complaint as much as the stream has pushed on unasked. -/
theorem only_program_complaint_waits (host : Host) (environment : Environment)
    (directory : Option Text) (line : Text) :
    let command : Command := ⟨directory, line⟩
    let run := (Session.stocked directory environment).execute host line
    let after := fun (spill : Spill) (target : Array UInt8) =>
      (Output.layered spill target []).deliver run.events
    ((∀ spill target, (after spill target).queued = []) ↔
      (run.starts ≠ [] → ∀ status, run.outcome = .ok status → status = 0)) ∧
    ((∀ spill target, (after spill target).queued = []) → ∀ spill target,
      after spill target = .layered spill (target ++ run.written) []) ∧
    (∀ status, run.starts ≠ [] → run.outcome = .ok status → status ≠ 0 →
      ∃ complaint before, command.complaint? host environment = some complaint ∧
        complaint.status = status ∧
        run.written = before ++ Utf8.encode (complaint.message ++ "\n") ∧
        ∀ spill target, after spill target =
          Output.settle spill (target ++ before) (Utf8.encode (complaint.message ++ "\n"))) := by
  intro command run after
  have arrived (settled : ∀ spill target, (after spill target).queued = []) (spill : Spill)
      (target : Array UInt8) : after spill target = .layered spill (target ++ run.written) [] := by
    rw [Run.written_eq_octets]
    exact Output.deliver_of_settled (settled spill target)
  cases command.execute_unflushed host environment with
  | nothing flushes sound =>
    have settled (spill : Spill) (target : Array UInt8) : (after spill target).queued = [] :=
      flushes _ rfl
    refine ⟨iff_of_true settled sound, arrived, ?_⟩
    intro status started returned failed
    exact absurd (sound started status returned) failed
  | @complaint complaint before started made whole flushes =>
    have answers := Command.execute_answers (Command.departure?_of_complaint made)
    rw [made] at answers
    have ended : run.outcome = .ok complaint.status := answers.status
    have failed : complaint.status ≠ 0 := answers.failed complaint rfl
    have events : run.events = before ++ [.line complaint.message] := whole
    have waits (spill : Spill) (target : Array UInt8) : after spill target =
        Output.settle spill (target ++ before.flatMap Event.octets)
          (Utf8.encode (complaint.message ++ "\n")) := by
      simp only [after, events]
      exact Output.deliver_append_text (flushes _ rfl) _
    have unsettled : ¬∀ spill target, (after spill target).queued = [] := by
      intro settled
      have none := settled Spill.none #[]
      rw [waits, Utf8.encode_append] at none
      exact List.append_ne_nil_of_right_ne_nil _ (by decide) none
    refine ⟨iff_of_false unsettled fun sound => failed (sound started _ ended), arrived, ?_⟩
    intro status _ returned _
    refine ⟨complaint, before.flatMap Event.octets, made,
      Except.ok.inj (ended.symm.trans returned), ?_, waits⟩
    rw [Run.written_eq_octets, events, List.flatMap_append, Event.octets_single_line]

/-- A stream that pushes nothing on unasked, and a program that ends with status 3: its output has
arrived when the line is done, the complaint has not. -/
theorem complaint_waits_in_the_queue :
    let environment : Environment := Table.ofList [("PATH", "/bin")]
    let run := (Session.stocked (some "/") environment).execute
      (Host.lone (.ends (Utf8.encode "half\n") 3)) "p"
    let after := (Output.overBytes Spill.none).deliver run.events
    run.outcome = .ok 3 ∧ after.content = Utf8.encode "half\n" ∧
      after.queued = Utf8.encode "Error running external program p:exit status 3\n" := by
  decide +kernel

end PlainShell
