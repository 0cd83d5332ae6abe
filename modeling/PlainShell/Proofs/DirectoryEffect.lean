import PlainShell.Proofs.Routing

/-!
What a run does to the working directory. It leaves the directory alone, or it makes one change, to
a place that a path leads to, and takes a note of it. This is said once for every operation; no
other fact about the directory needs an operation to be opened again.
-/

namespace PlainShell

/-- The directory that the session is said to be in from now on. -/
def Event.movedTo? : Event → Option Text
  | .note (.movedTo directory) => some directory
  | _ => none

theorem Event.movedTo?_of_ofProgram (event : Event) (told : event.ofProgram = true) :
    event.movedTo? = none := by
  cases event with
  | note value => cases value <;> first | rfl | simp [ofProgram] at told
  | _ => rfl

/-- The changes of directory that the run reports, in order. -/
def Run.moves {α : Type} (run : Run α) : List Text := run.events.filterMap Event.movedTo?

/-- The ways to deal with the directory of a session, by the directory that is left and the changes
that are reported. -/
inductive DirectoryEffect (host : Host) (session : Session) (left : Option Text)
    (moves : List Text) : Prop where
  | stays (kept : left = session.directory) (silent : moves = [])
  | goes {path directory : Text} (reached : session.destination host path = .ok directory)
      (there : left = some directory) (told : moves = [directory])

namespace Run

variable {α β : Type} {host : Host} {session : Session}

abbrev HasDirectoryEffect (run : Run α) (host : Host) (session : Session) : Prop :=
  DirectoryEffect host session run.session.directory run.moves

namespace HasDirectoryEffect

theorem congr {run : Run α} {other : Run β} (effect : run.HasDirectoryEffect host session)
    (same : other.session.directory = run.session.directory) (moves : other.moves = run.moves) :
    other.HasDirectoryEffect host session := by
  rw [HasDirectoryEffect, same, moves]
  exact effect

theorem of_value {events : List Event} (silent : events.filterMap Event.movedTo? = [])
    (result : α) : (Run.value session events result).HasDirectoryEffect host session :=
  .stays rfl silent

theorem after {run : Run α} (effect : run.HasDirectoryEffect host session) {events : List Event}
    (silent : events.filterMap Event.movedTo? = []) :
    (run.after events).HasDirectoryEffect host session := by
  refine effect.congr rfl ?_
  rw [moves, events_after, List.filterMap_append, silent, List.nil_append]
  rfl

end HasDirectoryEffect

end Run

theorem Session.destination_eq_ok_iff {session : Session} {host : Host} {path directory : Text} :
    session.destination host path = .ok directory ↔
      Path.resolve session.directory path = some directory ∧ host.isEnterable directory = true := by
  unfold destination
  cases Path.resolve session.directory path with
  | none => simp
  | some target =>
    by_cases enterable : host.isEnterable target = true
    · simp only [if_pos enterable, Except.ok.injEq, Option.some.injEq]
      refine ⟨fun same => ⟨same, same ▸ enterable⟩, And.left⟩
    · simp only [if_neg enterable, reduceCtorEq, Option.some.injEq, false_iff, not_and]
      rintro rfl
      exact enterable

open Run

/-- The log of a search tells of no move. -/
theorem Session.moves_searchNote (session : Session) (host : Host) (name : Text) :
    [Event.note (session.searchNote host name)].filterMap Event.movedTo? = [] := by
  rw [searchNote]
  split <;> rfl

theorem Handler.run_directoryEffect (handler : Handler) (host : Host) (session : Session)
    (arguments : List Text) :
    (handler.run host session arguments).HasDirectoryEffect host session := by
  cases handler with
  | echo => exact HasDirectoryEffect.of_value rfl 0
  | type =>
    simp only [run, Session.describe]
    split
    · exact HasDirectoryEffect.of_value rfl 0
    · next name rest =>
      have noted := session.moves_searchNote host name
      split
      · exact HasDirectoryEffect.of_value rfl 0
      · split
        · exact (HasDirectoryEffect.of_value rfl 0).after noted
        · exact (HasDirectoryEffect.of_value rfl 1).after noted
  | exit => exact .stays rfl rfl
  | pwd =>
    simp only [run, Session.printDirectory]
    split <;> exact HasDirectoryEffect.of_value rfl _
  | cd =>
    simp only [run, Session.enter]
    split
    · exact HasDirectoryEffect.of_value rfl 0
    · next argument rest =>
      cases wanted : session.wanted host argument with
      | error error => exact HasDirectoryEffect.of_value rfl error.code
      | ok path =>
        cases reached : session.destination host path with
        | error error =>
          have whole : (Except.ok path >>= session.destination host) = .error error := reached
          rw [whole]
          exact HasDirectoryEffect.of_value rfl error.code
        | ok directory =>
          have whole : (Except.ok path >>= session.destination host) = .ok directory := reached
          rw [whole]
          exact .goes reached rfl rfl
  | script lines ending =>
    have silent : (lines.map Event.line).filterMap Event.movedTo? = [] := by
      simp [List.filterMap_map, Event.line, Event.movedTo?]
    exact .stays rfl silent

namespace Invocation

variable (invocation : Invocation) (host : Host) (session : Session)

theorem attempt_directoryEffect (handler : Option Handler) :
    (invocation.attempt host handler session).HasDirectoryEffect host session := by
  cases handler with
  | none => exact .stays rfl rfl
  | some handler => exact handler.run_directoryEffect host session invocation.arguments

/-- Containing a failure and pushing output on do not touch the directory. -/
theorem perform_directoryEffect (handler : Option Handler) :
    (invocation.perform host handler session).HasDirectoryEffect host session := by
  have attempted := invocation.attempt_directoryEffect host session handler
  unfold perform
  dsimp only
  split
  · refine attempted.congr rfl ?_
    simp [moves, Run.value, Event.movedTo?]
  · refine attempted.congr rfl ?_
    simp [moves, Run.value, failureLine, Event.line, Event.movedTo?]
  · exact attempted

/-- A program is started in the directory and has no part in changing it. -/
theorem launch_directoryEffect (path : Text) :
    (invocation.launch host session path).HasDirectoryEffect host session := by
  refine .stays (congrArg Session.directory (launch_frame invocation host session path).1) ?_
  rw [moves, List.filterMap_eq_nil_iff]
  intro event member
  exact event.movedTo?_of_ofProgram (invocation.ofProgram_launch host session path event member)

theorem external_directoryEffect :
    (invocation.external host session).HasDirectoryEffect host session := by
  have noted := session.moves_searchNote host invocation.name
  unfold external
  dsimp only
  split
  · exact HasDirectoryEffect.of_value noted none
  · next path found => exact (invocation.launch_directoryEffect host session path).after noted

end Invocation

namespace Session

variable (session : Session) (host : Host)

theorem dispatch_directoryEffect (tokens : List Text) (line : Text) :
    (session.dispatch host tokens line).HasDirectoryEffect host session := by
  cases tokens with
  | nil => exact HasDirectoryEffect.of_value rfl 0
  | cons name arguments =>
    cases table : session.builtins.get? name with
    | some handler =>
      rw [dispatch_builtin table]
      have effect :=
        Invocation.perform_directoryEffect ⟨name, arguments⟩ host session (some handler)
      exact effect.after rfl
    | none =>
      cases search : session.findProgram host name with
      | none =>
        rw [dispatch_nothing table search]
        exact HasDirectoryEffect.of_value rfl 127
      | some path =>
        have kept := (Invocation.launch_frame ⟨name, arguments⟩ host session path).1
        have effect := Invocation.launch_directoryEffect ⟨name, arguments⟩ host session path
        rw [dispatch_program table search]
        exact effect.congr (congrArg Session.directory kept).symm rfl

theorem execute_directoryEffect (line : Text) :
    (session.execute host line).HasDirectoryEffect host session := by
  unfold execute
  split
  · exact .stays rfl rfl
  · exact session.dispatch_directoryEffect host (Tokens.ofLine line) line

end Session

end PlainShell
