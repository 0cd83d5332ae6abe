import PlainShell.Proofs.ExecutedCommands

/-!
Watching a run of the loop for events of some kind. The loop itself prompts, waits, notes how a line
ended and tells of input that fails. An observer who overlooks all this sees in the run what there
is to see in the executed lines, one after another.
-/

namespace PlainShell

variable {γ : Type}

/-- The observer takes no interest in texts, nor in the doings of the loop itself. -/
structure Overlooks (observe : Event → Option γ) : Prop where
  text : ∀ value, observe (.text value) = none
  flush : observe .flush = none
  read : observe .read = none
  finished : ∀ line status, observe (.note (.finished line status)) = none
  inputFailed : ∀ details, observe (.note (.inputFailed details)) = none

namespace Overlooks

variable {observe : Event → Option γ} (overlooks : Overlooks observe)
include overlooks

theorem line (value : Text) : observe (Event.line value) = none := overlooks.text _

theorem promptEvents (prompt : Text) :
    (Session.promptEvents prompt).filterMap observe = [] := by
  simp [Session.promptEvents, overlooks.text, overlooks.flush, overlooks.read]

theorem farewell (session : Session) (prompt : Text) (ending : Ending) :
    (session.farewell prompt ending).events.filterMap observe = [] := by
  unfold Session.farewell
  split
  · simp [Run.departure, Session.inputFailure, overlooks.promptEvents, overlooks.inputFailed,
      overlooks.line, overlooks.flush]
  · exact overlooks.promptEvents prompt

/-- What is seen in the loop over lines that lie ready. -/
theorem consume (host : Host) (environment : Environment) (prompt : Text) (ending : Ending)
    (directory : Option Text) (lines : List Text) :
    ((Session.stocked directory environment).consume host prompt ending lines).events.filterMap
        observe =
      (executedCommands host environment directory lines).flatMap fun command =>
        ((command.session environment).execute host command.line).events.filterMap observe := by
  induction lines generalizing directory with
  | nil => exact overlooks.farewell (.stocked directory environment) prompt ending
  | cons line rest ih =>
    have governs := (⟨directory, line⟩ : Command).execute_governs host environment
    cases departs : (⟨directory, line⟩ : Command).departure? host environment with
    | some cause =>
      have ended : ((Session.stocked directory environment).execute host line).outcome =
          .error cause := governs.departs cause departs
      rw [executedCommands_of_departure departs rest,
        Session.consume_of_error _ host prompt ending rest ended, List.filterMap_append,
        overlooks.promptEvents]
      simp [Command.session]
    | none =>
      obtain ⟨status, ended⟩ :
          ((Session.stocked directory environment).execute host line).Returns :=
        governs.returns departs
      have left : ((Session.stocked directory environment).execute host line).session =
          .stocked ((⟨directory, line⟩ : Command).next host environment) environment :=
        governs.session
      rw [executedCommands_of_stay departs rest,
        Session.consume_of_ok _ host prompt ending rest ended, Run.events_after, left,
        List.flatMap_cons, ← ih, List.filterMap_append, List.filterMap_append,
        List.filterMap_append, overlooks.promptEvents]
      simp [Command.session, overlooks.finished]

theorem loop (host : Host) (environment : Environment) (prompt : Text) (directory : Option Text)
    (input : Input) :
    ((Session.start host environment directory).loop host prompt input).events.filterMap observe =
      (executedCommands host environment (directory.or host.directory) input.lines).flatMap
        fun command =>
          ((command.session environment).execute host command.line).events.filterMap observe := by
  rw [Session.loop_eq_consume]
  exact overlooks.consume host environment prompt input.ending _ input.lines

end Overlooks

end PlainShell
