import PlainShell.Output

/-!
What a run shows to the outside: the bytes it puts out, the programs it starts, and how often it
waits for a line. Each is read off the events in order, so that it adds up when runs follow one
another.
-/

namespace PlainShell

/-- What an event adds to an output that is kept in memory. -/
def Event.octets : Event → Bytes
  | .text value => Utf8.encode value
  | .bytes value => value
  | _ => []

/-- The event is a write, be it of nothing. -/
def Event.isWrite : Event → Bool
  | .text _ | .bytes _ => true
  | _ => false

theorem Event.octets_of_not_isWrite {event : Event} (still : ¬event.isWrite = true) :
    event.octets = [] := by
  cases event <;> simp_all [isWrite, octets]

theorem Event.octets_note_cons (note : Note) (events : List Event) :
    (Event.note note :: events).flatMap Event.octets = events.flatMap Event.octets := rfl

theorem Event.octets_single_line (value : Text) :
    [Event.line value].flatMap Event.octets = Utf8.encode (value ++ "\n") := by
  simp [Event.line, Event.octets]

/-- Memory takes on the octets of all events, behind what it held before. -/
theorem Output.deliver_memory (held : Array UInt8) (events : List Event) :
    (Output.memory held).deliver events = .memory (held ++ events.flatMap Event.octets) := by
  induction events generalizing held with
  | nil => simp [deliver]
  | cons event rest ih =>
    have first : (Output.memory held).accept event = .memory (held ++ event.octets) := by
      cases event <;> simp [accept, writeText, writeBytes, flush, Event.octets]
    change ((Output.memory held).accept event).deliver rest = _
    rw [first, ih]
    exact congrArg Output.memory (Array.toList_inj.mp (by simp))

theorem Output.content_deliver_memory (held : Array UInt8) (events : List Event) :
    ((Output.memory held).deliver events).content = held.toList ++ events.flatMap Event.octets := by
  simp [deliver_memory, content]

namespace Run

variable {α β : Type}

/-- All that the run puts out. -/
def written (run : Run α) : Bytes := (Output.inMemory.deliver run.events).content

/-- What the run writes, write by write. -/
def writes (run : Run α) : List Event := run.events.filter Event.isWrite

/-- How often the run waits for a line. -/
def waits (run : Run α) : Nat := run.events.count .read

/-- The run ends with a value. -/
def Returns (run : Run α) : Prop := ∃ result, run.outcome = .ok result

theorem written_eq_octets (run : Run α) : run.written = run.events.flatMap Event.octets := by
  simp [written, Output.inMemory, Output.content_deliver_memory]

theorem written_value (session : Session) (events : List Event) (result : α) :
    (Run.value session events result).written = events.flatMap Event.octets :=
  written_eq_octets _

@[simp] theorem events_after (run : Run α) (events : List Event) :
    (run.after events).events = events ++ run.events := rfl

@[simp] theorem session_after (run : Run α) (events : List Event) :
    (run.after events).session = run.session := rfl

@[simp] theorem outcome_after (run : Run α) (events : List Event) :
    (run.after events).outcome = run.outcome := rfl

theorem written_after (run : Run α) (events : List Event) :
    (run.after events).written = events.flatMap Event.octets ++ run.written := by
  simp [written_eq_octets]

theorem starts_after (run : Run α) (events : List Event) :
    (run.after events).starts = events.filterMap Event.start? ++ run.starts := by
  simp [starts]

theorem writes_after (run : Run α) (events : List Event) :
    (run.after events).writes = events.filter Event.isWrite ++ run.writes := by
  simp [writes]

theorem octets_writes (run : Run α) :
    run.writes.flatMap Event.octets = run.events.flatMap Event.octets := by
  rw [writes]
  induction run.events with
  | nil => rfl
  | cons event rest ih =>
    rw [List.filter_cons, List.flatMap_cons, ← ih]
    split
    · rw [List.flatMap_cons]
    · next still => rw [Event.octets_of_not_isWrite still, List.nil_append]

theorem waits_after (run : Run α) (events : List Event) :
    (run.after events).waits = events.count .read + run.waits := by
  simp [waits]

theorem bind_of_ok {run : Run α} {result : α} (next : α → Session → Run β)
    (returned : run.outcome = .ok result) :
    run.bind next = (next result run.session).after run.events := by
  simp only [bind, returned]

theorem bind_of_error {run : Run α} {cause : Departure} (next : α → Session → Run β)
    (departed : run.outcome = .error cause) :
    run.bind next = ⟨run.events, run.session, .error cause⟩ := by
  simp only [bind, departed]

end Run

end PlainShell
