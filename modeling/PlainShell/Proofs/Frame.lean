import PlainShell.Proofs.Complaint
import PlainShell.Proofs.Delivery
import PlainShell.Proofs.ExecutedCommands

/-!
What a line leaves alone. Whatever becomes of it, the environment and the builtins stay, the output
only grows and no more than one program is started. The directory is another one only after a `cd`
that has succeeded, so these are the only lines that a later line can tell: it finds the same
session as if they alone had come before it.
-/

namespace PlainShell

/-! One line. -/

/-- A `cd` with an argument that has succeeded. -/
def Moves (line : Text) (run : Run Int) : Prop :=
  (∃ name ∈ (Tokens.ofLine line).head?, name = "cd") ∧ 2 ≤ (Tokens.ofLine line).length ∧
    run.outcome = .ok 0

instance (line : Text) (run : Run Int) : Decidable (Moves line run) :=
  inferInstanceAs (Decidable (_ ∧ _ ∧ _))

/-- What the line leaves alone in its run, whether it returns or departs. -/
structure Frame (session : Session) (line : Text) (run : Run Int) : Prop where
  environment : run.session.environment = session.environment
  builtins : run.session.builtins = session.builtins
  output : ∀ output : Output, output.content <+: (output.deliver run.events).content ∧
    output.taken <+: (output.deliver run.events).taken
  starts : run.starts.length ≤ 1
  builtin : ∀ name ∈ (Tokens.ofLine line).head?, session.isBuiltin name = true → run.starts = []
  directory : run.session.directory ≠ session.directory → Moves line run

namespace Command

variable {host : Host} {environment : Environment} {command : Command}

/-- A move is made by a `cd` with an argument, which returns 0. -/
theorem moves_of_moved {goal : Text} (moved : command.moved? host environment = some goal) :
    Moves command.line ((command.session environment).execute host command.line) := by
  unfold moved? at moved
  split at moved
  · next name argument further tokens =>
    split at moved
    · next change =>
      subst change
      have stays : command.departure? host environment = none :=
        departure?_of_stock tokens (by decide) (by decide)
      have answers := execute_answers stays
      have content : command.complaint? host environment = none := by
        simp only [complaint?, stays, tokens, ↓reduceIte, entryComplaint?, moved]
      rw [content] at answers
      exact ⟨⟨_, by rw [tokens]; rfl, rfl⟩, by simp [tokens], answers.status⟩
    · simp at moved
  · simp at moved

theorem execute_frame (host : Host) (environment : Environment) (command : Command) :
    Frame (command.session environment) command.line
      ((command.session environment).execute host command.line) := by
  have governs := command.execute_governs host environment
  refine ⟨?_, ?_, fun output => output.prefix_deliver _, ?_, ?_, ?_⟩
  · rw [governs.session]
    rfl
  · rw [governs.session]
    rfl
  · rw [governs.starts]
    exact Option.length_toList_le
  · intro name first builtin
    obtain ⟨arguments, tokens⟩ := List.head?_eq_some_iff.mp first
    rw [governs.starts, start?_of_stock tokens ((Session.isBuiltin_stocked ..).mp builtin)]
    rfl
  · intro changed
    cases moved : command.moved? host environment with
    | some goal => exact moves_of_moved moved
    | none =>
      rw [governs.session] at changed
      exact absurd (by simp only [next, moved, Option.none_or]; rfl) changed

end Command

/-! The lines before. -/

namespace Session

/-- Those of the lines that have moved the session, each in the session that the lines before it
have left. -/
def advances (session : Session) (host : Host) : List Text → List Text
  | [] => []
  | line :: rest =>
    let turn := session.execute host line
    if Moves line turn then line :: turn.session.advances host rest
    else turn.session.advances host rest

/-- The lines that have moved the session lead by themselves to where all of them lead. -/
theorem afterLines_advances (host : Host) (environment : Environment) (directory : Option Text)
    (lines : List Text) :
    (stocked directory environment).afterLines host
        ((stocked directory environment).advances host lines) =
      (stocked directory environment).afterLines host lines := by
  induction lines generalizing directory with
  | nil => rfl
  | cons line rest ih =>
    have governs := (⟨directory, line⟩ : Command).execute_governs host environment
    have frame := (⟨directory, line⟩ : Command).execute_frame host environment
    have left : ((stocked directory environment).execute host line).session =
        .stocked ((⟨directory, line⟩ : Command).next host environment) environment :=
      governs.session
    by_cases moves : Moves line ((stocked directory environment).execute host line)
    · simp only [advances, if_pos moves, afterLines, List.foldl_cons, left]
      exact ih _
    · have still : ((stocked directory environment).execute host line).session =
          stocked directory environment := by
        have kept : ((stocked directory environment).execute host line).session.directory =
            directory := by
          by_contra changed
          exact moves (frame.directory changed)
        rw [left] at kept ⊢
        exact congrArg (stocked · environment) kept
      simp only [advances, if_neg moves, afterLines, List.foldl_cons, still]
      exact ih directory

end Session

/-- A line keeps its frame: the environment, the builtins and all output before it stay, it starts
one program at most and none by a builtin, and only a `cd` that succeeds changes the directory. So a
line of the loop does what it would do if none but the successful `cd` lines had come before it: it
writes, starts and returns the same after any two histories that have these lines in common. -/
theorem line_keeps_frame (host : Host) (environment : Environment) (directory : Option Text) :
    let session := Session.stocked directory environment
    (∀ line, Frame session line (session.execute host line)) ∧
    (∀ first second line, session.advances host first = session.advances host second →
      (session.afterLines host first).execute host line =
        (session.afterLines host second).execute host line) ∧
    ∀ prompt (input : Input) earlier line later, input.lines = earlier ++ line :: later →
      (∀ turn ∈ session.turns host earlier, turn.Returns) →
      let turn := (session.afterLines host (session.advances host earlier)).execute host line
      ∃ rest, (session.loop host prompt input).events =
          session.passage host prompt earlier ++ (Session.promptEvents prompt ++ turn.events ++
            Session.finishedNote line turn ++ rest) ∧
        ∀ cause, turn.outcome = .error cause →
          rest = [] ∧ (session.loop host prompt input).outcome = .error cause := by
  intro session
  have same (lines : List Text) :
      session.afterLines host (session.advances host lines) = session.afterLines host lines :=
    Session.afterLines_advances host environment directory lines
  refine ⟨fun line => (⟨directory, line⟩ : Command).execute_frame host environment, ?_, ?_⟩
  · intro first second line common
    rw [← same first, common, same second]
  · intro prompt input earlier line later split returned
    rw [same earlier]
    exact session.loop_at_line host prompt split returned

end PlainShell
