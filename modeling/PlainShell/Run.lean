import PlainShell.Note
import PlainShell.Session

/-!
A run is everything that happened while something was carried out, in order: what was written, when
output was pushed on, when a line was waited for, which programs were started and what was noted. It
ends with a value or by a departure, and leaves a session either way.
-/

namespace PlainShell

/-- The start of a program, as the system was asked for it. -/
structure Start where
  argv : List Text
  directory : Option Text
  environment : Environment
  deriving DecidableEq, Repr

inductive Event where
  | text (value : Text)
  | bytes (value : Bytes)
  | flush
  | read
  | start (record : Start)
  | note (value : Note)
  deriving DecidableEq, Repr

namespace Event

def start? : Event → Option Start
  | .start record => some record
  | _ => none

def note? : Event → Option Note
  | .note value => some value
  | _ => none

/-- A text with the end of its line. -/
def line (value : Text) : Event := .text (value ++ "\n")

end Event

structure Run (α : Type) where
  events : List Event
  session : Session
  outcome : Except Departure α

namespace Run

variable {α β : Type}

/-- A run that ends with a value and leaves the session as it was. -/
def value (session : Session) (events : List Event) (result : α) : Run α :=
  ⟨events, session, .ok result⟩

def departure (session : Session) (events : List Event) (cause : Departure) : Run α :=
  ⟨events, session, .error cause⟩

/-- The run with more events before it. -/
def after (run : Run α) (events : List Event) : Run α := { run with events := events ++ run.events }

/-- The run, and what follows from its value in the session it leaves. A departure ends both. -/
def bind (run : Run α) (next : α → Session → Run β) : Run β :=
  match run.outcome with
  | .error cause => ⟨run.events, run.session, .error cause⟩
  | .ok result => (next result run.session).after run.events

def starts (run : Run α) : List Start := run.events.filterMap Event.start?

def notes (run : Run α) : List Note := run.events.filterMap Event.note?

end Run

end PlainShell
