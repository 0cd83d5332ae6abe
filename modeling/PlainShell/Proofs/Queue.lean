import PlainShell.Proofs.Delivery
import PlainShell.Proofs.Command
import PlainShell.Proofs.Turns

/-!
What an output over bytes keeps back while the loop goes on. Not every command pushes on what it has
written: the line about a program that failed is left in the queue. But the next prompt is pushed on
together with all that lies before it, and a line that leaves the shell writes nothing. So the queue
is empty whenever the shell waits, and when it is left.
-/

namespace PlainShell

namespace Output

/-- Nothing waits in the queue, and the target holds these octets. -/
structure Shows (output : Output) (octets : Bytes) : Prop where
  queue : output.queued = []
  target : output.content = octets

theorem deliver_append (output : Output) (before later : List Event) :
    output.deliver (before ++ later) = (output.deliver before).deliver later := List.foldl_append

theorem queued_flush (output : Output) : output.flush.queued = [] := by
  cases output <;> rfl

theorem queued_accept_of_silent {output : Output} (settled : output.queued = []) {event : Event}
    (silent : event.octets = []) : (output.accept event).queued = [] := by
  cases output with
  | memory held => cases event <;> rfl
  | textual shown => cases event <;> rfl
  | layered spill target queue =>
    obtain rfl : queue = [] := settled
    cases event with
    | text value =>
      have none : Utf8.encode value = [] := silent
      simp [accept, writeText, settle, queued, none]
    | bytes value | flush | read | start record | note value => rfl

/-- As long as nothing is written nothing comes to wait. -/
theorem queued_deliver_of_silent {output : Output} (settled : output.queued = [])
    {events : List Event} (silent : events.flatMap Event.octets = []) :
    (output.deliver events).queued = [] := by
  induction events generalizing output with
  | nil => exact settled
  | cons event rest ih =>
    rw [List.flatMap_cons, List.append_eq_nil_iff] at silent
    exact ih (queued_accept_of_silent settled silent.1) silent.2

theorem queued_promptEvents (output : Output) (prompt : Text) :
    (output.deliver (Session.promptEvents prompt)).queued = [] :=
  (output.writeText prompt).queued_flush

/-- Where nothing waits, all that was written has arrived. -/
theorem shows_deliver {output : Output} (direct : output.TakesBytes) {events : List Event}
    (settled : (output.deliver events).queued = []) :
    (output.deliver events).Shows (output.taken ++ events.flatMap Event.octets) := by
  obtain ⟨-, whole⟩ := taken_deliver direct events
  exact ⟨settled, (content_of_settled settled).trans whole⟩

end Output

/-! Leaving without a word. -/

/-- The handler leaves the shell, if it does, before it has written anything. A fault does not leave
the shell. -/
def Handler.IsDiscreet (handler : Handler) : Prop :=
  ∀ host session arguments cause, (handler.run host session arguments).outcome = .error cause →
    (∀ fault, cause ≠ .fault fault) → (handler.run host session arguments).written = []

def Registry.IsDiscreet (registry : Registry) : Prop :=
  ∀ name handler, registry.get? name = some handler → handler.IsDiscreet

/-- A handler that always returns has no occasion to be indiscreet. -/
theorem Handler.isDiscreet_of_returns {handler : Handler}
    (returns : ∀ host session arguments, (handler.run host session arguments).Returns) :
    handler.IsDiscreet := by
  intro host session arguments cause departed
  obtain ⟨status, returned⟩ := returns host session arguments
  rw [returned] at departed
  simp at departed

theorem Session.enter_returns (session : Session) (host : Host) (arguments : List Text) :
    (session.enter host arguments).Returns := by
  unfold enter
  split
  · exact ⟨0, rfl⟩
  · split
    · exact ⟨_, rfl⟩
    · exact ⟨0, rfl⟩

/-- Of the stock builtins only `exit` leaves, and it writes nothing at all. -/
theorem Registry.isDiscreet_stock : stock.IsDiscreet := by
  intro name handler found
  cases handler with
  | echo => exact Handler.isDiscreet_of_returns fun _ _ _ => ⟨0, rfl⟩
  | type =>
    exact Handler.isDiscreet_of_returns fun host session arguments =>
      (Command.describe_steady host session arguments).returns
  | exit =>
    intro host session arguments cause _ _
    rfl
  | pwd =>
    exact Handler.isDiscreet_of_returns fun host session arguments =>
      (Command.printDirectory_steady session).returns
  | cd =>
    exact Handler.isDiscreet_of_returns fun host session arguments =>
      session.enter_returns host arguments
  | script lines ending =>
    rcases stock_cases name with ⟨-, own⟩ | ⟨-, own⟩ | ⟨-, own⟩ | ⟨-, own⟩ | ⟨-, own⟩ | ⟨-, own⟩ <;>
      simp [own] at found

namespace Invocation

variable {invocation : Invocation} {host : Host} {session : Session} {cause : Departure}

theorem silent_perform {handler : Handler} (discreet : handler.IsDiscreet)
    (departed : (invocation.perform host (some handler) session).outcome = .error cause) :
    (invocation.perform host (some handler) session).written = [] := by
  have quiet := discreet host session invocation.arguments
  simp only [perform, attempt] at departed ⊢
  generalize handler.run host session invocation.arguments = attempted at departed quiet ⊢
  split at departed
  · simp [Run.value] at departed
  · simp [Run.value] at departed
  · next other uncontained ended => exact quiet other ended uncontained

/-- A launch is left because of a NUL or by an interrupt, and neither is told of. -/
theorem silent_launch {path : Text}
    (departed : (invocation.launch host session path).outcome = .error cause) :
    (invocation.launch host session path).written = [] := by
  unfold launch at departed ⊢
  dsimp only at departed ⊢
  split at departed
  · next nul =>
    rw [if_pos nul]
    rfl
  · next clean =>
    rw [if_neg clean]
    cases launched : host.launch session.directory session.environment path with
    | failed error => simp [launched, Run.value] at departed
    | interrupted => rfl
    | ended output status => simp [launched, conclude, Run.value] at departed

end Invocation

namespace Session

variable {session : Session} {host : Host} {cause : Departure}

theorem silent_dispatch (discreet : session.builtins.IsDiscreet) {tokens : List Text} {line : Text}
    (departed : (session.dispatch host tokens line).outcome = .error cause) :
    (session.dispatch host tokens line).written = [] := by
  cases tokens with
  | nil => simp [dispatch, Run.value] at departed
  | cons name arguments =>
    cases table : session.builtins.get? name with
    | some handler =>
      rw [dispatch_builtin table] at departed ⊢
      rw [Run.written_after, Invocation.silent_perform (discreet name handler table) departed]
      rfl
    | none =>
      cases search : session.findProgram host name with
      | none => simp [dispatch_nothing table search, Run.value] at departed
      | some path =>
        rw [dispatch_program table search] at departed ⊢
        have left : ((⟨name, arguments⟩ : Invocation).launch host session path).outcome =
            .error cause := by
          cases ended : ((⟨name, arguments⟩ : Invocation).launch host session path).outcome with
          | ok status => simp [ended, Except.map] at departed
          | error other => simpa [ended, Except.map] using departed
        have quiet := Invocation.silent_launch left
        rw [Run.written_eq_octets] at quiet ⊢
        exact quiet

/-- A line that leaves the shell writes nothing. -/
theorem silent_execute (discreet : session.builtins.IsDiscreet) {line : Text}
    (departed : (session.execute host line).outcome = .error cause) :
    (session.execute host line).written = [] := by
  unfold execute at departed ⊢
  split at departed
  · next first =>
    rw [if_pos first]
    rfl
  · next other =>
    rw [if_neg other]
    exact silent_dispatch discreet departed

end Session

/-! The table of builtins stays as it is. -/

theorem Handler.builtins_run (handler : Handler) (host : Host) (session : Session)
    (arguments : List Text) :
    (handler.run host session arguments).session.builtins = session.builtins := by
  cases handler with
  | echo | exit | script lines ending => rfl
  | type =>
    rw [run, (Command.describe_steady host session arguments).session]
  | pwd =>
    rw [run, (Command.printDirectory_steady session).session]
  | cd =>
    simp only [run, Session.enter]
    split
    · rfl
    · split <;> rfl

theorem Session.builtins_execute (session : Session) (host : Host) (line : Text) :
    (session.execute host line).session.builtins = session.builtins := by
  unfold execute
  split
  · rfl
  · cases Tokens.ofLine line with
    | nil => rfl
    | cons name arguments =>
      cases table : session.builtins.get? name with
      | some handler =>
        have kept := handler.builtins_run host session arguments
        rw [dispatch_builtin table, Run.session_after]
        simp only [Invocation.perform, Invocation.attempt]
        split <;> exact kept
      | none =>
        cases search : session.findProgram host name with
        | none => rw [dispatch_nothing table search]; rfl
        | some path => rw [dispatch_program table search]

/-! The end of the loop. -/

namespace Session

theorem queued_farewell (session : Session) (prompt : Text) (ending : Ending) (output : Output) :
    (output.deliver (session.farewell prompt ending).events).queued = [] := by
  unfold farewell
  split
  · next details told =>
    have last : promptEvents prompt ++ inputFailure details =
        promptEvents prompt ++ [.note (.inputFailed details),
          .line (ShellError.inputRead details).message] ++ [.flush] := rfl
    rw [Run.departure, last, Output.deliver_append]
    exact Output.queued_flush _
  · exact output.queued_promptEvents prompt

/-- However much of it had been queued on the way, the output is out when the loop is over. -/
theorem queued_consume {session : Session} (discreet : session.builtins.IsDiscreet) (host : Host)
    (prompt : Text) (ending : Ending) (lines : List Text) (output : Output) :
    (output.deliver (session.consume host prompt ending lines).events).queued = [] := by
  induction lines generalizing session output with
  | nil => exact session.queued_farewell prompt ending output
  | cons line rest ih =>
    cases ended : (session.execute host line).outcome with
    | error cause =>
      have silent := silent_execute discreet ended
      rw [Run.written_eq_octets] at silent
      rw [consume_of_error session host prompt ending rest ended, Output.deliver_append]
      exact Output.queued_deliver_of_silent (output.queued_promptEvents prompt) silent
    | ok status =>
      have still : (session.execute host line).session.builtins.IsDiscreet := by
        rw [session.builtins_execute host line]
        exact discreet
      rw [consume_of_ok session host prompt ending rest ended, Run.events_after,
        Output.deliver_append]
      exact ih still _

end Session

/-! The waits of the loop. -/

/-- Wherever a line is waited for, the prompt has been pushed on right before. -/
def WaitsPrompted (prompt : Text) (events : List Event) : Prop :=
  ∀ before later, events = before ++ .read :: later →
    ∃ earlier, before = earlier ++ [.text prompt, .flush]

namespace WaitsPrompted

variable {prompt : Text} {first second : List Event}

theorem of_no_read (none : Event.read ∉ first) : WaitsPrompted prompt first := by
  rintro before later rfl
  exact absurd (by simp) none

theorem append (front : WaitsPrompted prompt first) (back : WaitsPrompted prompt second) :
    WaitsPrompted prompt (first ++ second) := by
  intro before later split
  rcases List.append_eq_append_iff.mp split with ⟨middle, rfl, rest⟩ | ⟨middle, whole, rest⟩
  · obtain ⟨earlier, rfl⟩ := back middle later rest
    exact ⟨first ++ earlier, (List.append_assoc ..).symm⟩
  · cases middle with
    | nil =>
      obtain ⟨earlier, nothing⟩ := back [] later rest.symm
      simp at nothing
    | cons event more =>
      obtain ⟨rfl, -⟩ := List.cons.inj rest
      exact front before more whole

theorem promptEvents (prompt : Text) : WaitsPrompted prompt (Session.promptEvents prompt) := by
  intro before later split
  have quiet : Event.read ∉ [Event.text prompt, .flush] := by simp
  have whole : [Event.text prompt, .flush] ++ [.read] = before ++ .read :: later := split
  rcases List.append_eq_append_iff.mp whole with ⟨middle, rfl, rest⟩ | ⟨middle, whole, rest⟩
  · have none : middle = [] := by
      have length := congrArg List.length rest
      simp only [List.length_append, List.length_cons, List.length_nil] at length
      exact List.eq_nil_of_length_eq_zero (by omega)
    exact ⟨[], by rw [none, List.append_nil, List.nil_append]⟩
  · cases middle with
    | nil => exact ⟨[], by rw [whole, List.append_nil, List.nil_append]⟩
    | cons event more =>
      obtain ⟨rfl, -⟩ := List.cons.inj rest
      exact absurd (by simp [whole]) quiet

end WaitsPrompted

namespace Session

theorem waitsPrompted_farewell (session : Session) (prompt : Text) (ending : Ending) :
    WaitsPrompted prompt (session.farewell prompt ending).events := by
  unfold farewell
  split
  · exact (WaitsPrompted.promptEvents prompt).append
      (.of_no_read (by simp [inputFailure, Event.line]))
  · exact .promptEvents prompt

theorem waitsPrompted_consume (session : Session) (host : Host) (prompt : Text) (ending : Ending)
    (lines : List Text) :
    WaitsPrompted prompt (session.consume host prompt ending lines).events := by
  induction lines generalizing session with
  | nil => exact session.waitsPrompted_farewell prompt ending
  | cons line rest ih =>
    have unread : Event.read ∉ (session.execute host line).events :=
      List.count_eq_zero.mp (session.reads_execute host line)
    have turn : WaitsPrompted prompt (promptEvents prompt ++ (session.execute host line).events) :=
      (WaitsPrompted.promptEvents prompt).append (.of_no_read unread)
    cases ended : (session.execute host line).outcome with
    | error cause =>
      rw [consume_of_error session host prompt ending rest ended]
      exact turn
    | ok status =>
      rw [consume_of_ok session host prompt ending rest ended, Run.events_after]
      exact (turn.append (.of_no_read (by simp))).append (ih _)

end Session

namespace Session

section Seen

variable (session : Session) (host : Host) (prompt : Text) (input : Input) (spill : Spill)
  (target : Array UInt8) (queue : Bytes)

/-- Whatever the builtins do, nothing is held back when a line is waited for: the prompt has been
pushed on, with all that lies before it. -/
theorem shows_at_waits {before later : List Event}
    (split : (session.loop host prompt input).events = before ++ .read :: later) :
    (∃ earlier, before = earlier ++ [.text prompt, .flush]) ∧
      ((Output.layered spill target queue).deliver before).Shows
        (target.toList ++ queue ++ before.flatMap Event.octets) := by
  rw [loop_eq_consume] at split
  obtain ⟨earlier, rfl⟩ :=
    session.waitsPrompted_consume host prompt input.ending input.lines before later split
  have direct : (Output.layered spill target queue).TakesBytes := trivial
  refine ⟨⟨earlier, rfl⟩, Output.shows_deliver direct ?_⟩
  rw [Output.deliver_append]
  exact Output.queued_flush _

/-- Where no builtin writes before it leaves, nothing is held back when the loop is over. -/
theorem shows_at_end (discreet : session.builtins.IsDiscreet) :
    ((Output.layered spill target queue).deliver (session.loop host prompt input).events).Shows
      (target.toList ++ queue ++ (session.loop host prompt input).written) := by
  have direct : (Output.layered spill target queue).TakesBytes := trivial
  rw [Run.written_eq_octets]
  refine Output.shows_deliver direct ?_
  rw [loop_eq_consume]
  exact queued_consume discreet host prompt input.ending input.lines _

end Seen

end Session

/-- Nothing is left unseen when the loop waits or is over. Take any stream over bytes, with whatever
it may hold and keep back. Whenever a line is about to be read the queue is empty and the target
holds all that has been written up to then, the prompt last. The same is true when the loop has been
left, for whatever reason. -/
theorem all_shown_at_waits_and_end (host : Host) (environment : Environment)
    (directory : Option Text) (prompt : Text) (input : Input) (spill : Spill)
    (target : Array UInt8) (queue : Bytes) :
    let run := (Session.start host environment directory).loop host prompt input
    let seen := fun events : List Event => (Output.layered spill target queue).deliver events
    (∀ before later, run.events = before ++ .read :: later →
      (∃ earlier, before = earlier ++ [.text prompt, .flush]) ∧
      (seen before).Shows (target.toList ++ queue ++ before.flatMap Event.octets)) ∧
    (seen run.events).Shows (target.toList ++ queue ++ run.written) := by
  intro run seen
  exact ⟨fun before later => Session.shows_at_waits _ host prompt input spill target queue,
    Session.shows_at_end _ host prompt input spill target queue Registry.isDiscreet_stock⟩

end PlainShell
