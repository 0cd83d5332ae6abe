import PlainShell.Proofs.Arrival

/-!
What a user can do wrong with a builtin, and what comes of it. Whatever the state of the session is
and whatever the arguments are, `echo`, `type`, `pwd` and `cd` come back with a status: 1 when there
is a mistake to tell, 0 when there is none. So nothing is ever left over to be contained.
-/

namespace PlainShell

/-- A mistake that a builtin has to tell its user. -/
inductive Mistake (host : Host) (session : Session) : Handler → List Text → Prop where
  | unknownName {name : Text} {further : List Text}
    (unregistered : name ∉ session.builtins.names)
    (missing : session.findProgram host name = none) : Mistake host session .type (name :: further)
  | lost {arguments : List Text} (unknown : session.directory = none) :
    Mistake host session .pwd arguments
  | homeless {error : ShellError} {further : List Text}
    (failed : session.home host = .error error) : Mistake host session .cd ("~" :: further)
  | noEntry {argument target : Text} {error : ShellError} {further : List Text}
    (stands : Session.StandsFor host session argument target)
    (failed : session.destination host target = .error error) :
    Mistake host session .cd (argument :: further)

/-- The run writes one line at most, starts nothing, and comes back with 1 or 0, as there was a
mistake or not. -/
structure Run.Replies (run : Run Int) (mistake : Prop) : Prop where
  line : ∃ line, run.Prints [] line
  starts : run.starts = []
  status : run.outcome = .ok 1 ∧ mistake ∨ run.outcome = .ok 0 ∧ ¬mistake

namespace Run.Replies

variable {run : Run Int} {mistake : Prop}

theorem returned (replies : run.Replies mistake) : run.outcome = .ok 0 ∨ run.outcome = .ok 1 :=
  replies.status.symm.imp And.left And.left

theorem failed_iff (replies : run.Replies mistake) : run.outcome = .ok 1 ↔ mistake := by
  rcases replies.status with ⟨failed, made⟩ | ⟨succeeded, none⟩
  · exact iff_of_true failed made
  · exact iff_of_false (by simp [succeeded]) none

end Run.Replies

/-! Home and destination, as `cd` asks for them. -/

namespace Session

variable {host : Host} {session : Session} {argument target : Text} {error : ShellError}

theorem home_error (failed : session.home host = .error error) :
    error = .homeUnknown "$HOME is not defined" := by
  unfold home at failed
  split at failed
  · simp at failed
  · exact (Except.error.inj failed).symm

theorem destination_error (failed : session.destination host target = .error error) :
    error = .directoryNotFound target := by
  unfold destination at failed
  split at failed
  · exact (Except.error.inj failed).symm
  · split at failed
    · simp at failed
    · exact (Except.error.inj failed).symm

theorem standsFor_of_wanted (wanted : session.wanted host argument = .ok target) :
    StandsFor host session argument target := by
  by_cases stands : ∃ path, StandsFor host session argument path
  · obtain ⟨path, stands⟩ := stands
    rw [wanted_of_standsFor stands] at wanted
    exact Except.ok.inj wanted ▸ stands
  · simp [wanted_of_nothing stands] at wanted

/-- Only the home directory can be looked up in vain. -/
theorem wanted_error (failed : session.wanted host argument = .error error) :
    argument = "~" ∧ session.home host = .error error := by
  by_cases shortcut : argument = homeShortcut
  · rw [wanted, if_pos shortcut] at failed
    exact ⟨shortcut, failed⟩
  · simp [wanted, if_neg shortcut] at failed

theorem mistake_of_error
    (failed : session.wanted host argument >>= session.destination host = .error error)
    (further : List Text) :
    error.code = 1 ∧ Mistake host session .cd (argument :: further) := by
  cases wanted : session.wanted host argument with
  | error unknown =>
    rw [wanted] at failed
    obtain rfl : unknown = error := Except.error.inj failed
    obtain ⟨rfl, homeless⟩ := wanted_error wanted
    exact ⟨home_error homeless ▸ rfl, .homeless homeless⟩
  | ok target =>
    rw [wanted] at failed
    have closed : session.destination host target = .error error := failed
    exact ⟨destination_error closed ▸ rfl, .noEntry (standsFor_of_wanted wanted) closed⟩

theorem no_mistake_of_ok {directory : Text}
    (reached : session.wanted host argument >>= session.destination host = .ok directory)
    (further : List Text) : ¬Mistake host session .cd (argument :: further) := by
  intro mistake
  cases mistake with
  | homeless failed =>
    rw [wanted_home, failed] at reached
    simp [bind, Except.bind] at reached
  | noEntry stands failed =>
    rw [wanted_of_standsFor stands] at reached
    exact absurd (failed.symm.trans reached) (by simp)

end Session

/-! One builtin after another. -/

namespace Session

variable (host : Host) (session : Session) (arguments : List Text)

theorem echo_replies : (session.echo arguments).Replies (Mistake host session .echo arguments) :=
  ⟨⟨some _, .of_writes rfl⟩, rfl, Or.inr ⟨rfl, nofun⟩⟩

theorem describe_replies :
    (session.describe host arguments).Replies (Mistake host session .type arguments) := by
  cases arguments with
  | nil => exact ⟨⟨none, .of_writes rfl⟩, rfl, Or.inr ⟨rfl, nofun⟩⟩
  | cons name further =>
    -- Only the first argument is looked at.
    change (session.describe host [name]).Replies _
    cases table : session.builtins.get? name with
    | some handler =>
      rw [describe_builtin table]
      refine ⟨⟨some _, .of_writes rfl⟩, rfl, Or.inr ⟨rfl, fun mistake => ?_⟩⟩
      cases mistake with
      | unknownName unregistered =>
        simp [Table.get?_eq_none_iff.mpr unregistered] at table
    | none =>
      cases search : session.findProgram host name with
      | some path =>
        rw [describe_program table search]
        refine ⟨⟨some _, .of_writes rfl⟩, rfl, Or.inr ⟨rfl, fun mistake => ?_⟩⟩
        cases mistake with
        | unknownName _ missing => simp [missing] at search
      | none =>
        rw [describe_nothing table search]
        exact ⟨⟨some _, .of_writes rfl⟩, rfl,
          Or.inl ⟨rfl, .unknownName (Table.get?_eq_none_iff.mp table) search⟩⟩

theorem printDirectory_replies :
    session.printDirectory.Replies (Mistake host session .pwd arguments) := by
  cases known : session.directory with
  | some directory =>
    have printed : session.printDirectory = Run.value session [.line directory] 0 := by
      simp only [printDirectory, workingDirectory, known]
    rw [printed]
    refine ⟨⟨some _, .of_writes rfl⟩, rfl, Or.inr ⟨rfl, fun mistake => ?_⟩⟩
    cases mistake with
    | lost unknown => simp [unknown] at known
  | none =>
    have reported : session.printDirectory = session.report (.directoryUnknown none) := by
      simp only [printDirectory, workingDirectory, known]
    rw [reported]
    exact ⟨⟨some _, .of_writes rfl⟩, rfl, Or.inl ⟨rfl, .lost known⟩⟩

theorem enter_replies :
    (session.enter host arguments).Replies (Mistake host session .cd arguments) := by
  cases arguments with
  | nil => exact ⟨⟨none, .of_writes rfl⟩, rfl, Or.inr ⟨rfl, nofun⟩⟩
  | cons argument further =>
    cases reached : session.wanted host argument >>= session.destination host with
    | error error =>
      obtain ⟨usual, mistake⟩ := mistake_of_error reached further
      rw [enter_of_error usual further reached]
      exact ⟨⟨some _, .of_writes rfl⟩, rfl, Or.inl ⟨rfl, mistake⟩⟩
    | ok directory =>
      rw [enter_of_ok further reached]
      exact ⟨⟨none, .of_writes rfl⟩, rfl, Or.inr ⟨rfl, no_mistake_of_ok reached further⟩⟩

end Session

/-- The handlers that come back whatever they are given. -/
theorem Handler.replies (host : Host) (session : Session) (arguments : List Text)
    {handler : Handler} (staying : handler ∈ [Handler.echo, .type, .pwd, .cd]) :
    (handler.run host session arguments).Replies (Mistake host session handler arguments) := by
  simp only [List.mem_cons, List.not_mem_nil, or_false] at staying
  rcases staying with rfl | rfl | rfl | rfl
  · exact session.echo_replies host arguments
  · exact session.describe_replies host arguments
  · exact session.printDirectory_replies host arguments
  · exact session.enter_replies host arguments

/-- No mistake of a user makes a stock builtin fail. It comes back with 0 or 1, and with 1 just when
there was a mistake. It writes one line at most and starts nothing, and when it is run as a command
nothing comes to what it has written, since there is no failure to contain. -/
theorem mistakes_are_answered (host : Host) (session : Session) (name : Text)
    (arguments : List Text) {handler : Handler}
    (staying : handler ∈ [Handler.echo, .type, .pwd, .cd]) :
    let run := handler.run host session arguments
    (run.outcome = .ok 0 ∨ run.outcome = .ok 1) ∧
    (run.outcome = .ok 1 ↔ Mistake host session handler arguments) ∧
    (∃ line, run.Prints [] line) ∧ run.starts = [] ∧
    (⟨name, arguments⟩ : Invocation).perform host (some handler) session =
      ⟨run.events ++ [.flush], run.session, run.outcome⟩ := by
  intro run
  have replies : run.Replies (Mistake host session handler arguments) :=
    Handler.replies host session arguments staying
  refine ⟨replies.returned, replies.failed_iff, replies.line, replies.starts, ?_⟩
  rcases replies.returned with returned | returned
  · rw [Command.perform_of_ok returned, returned]
  · rw [Command.perform_of_ok returned, returned]

/-- A path with a NUL in it, and no directory to begin from: `cd` says that there is no such
directory. -/
theorem mistakes_are_answered_of_nul :
    let session : Session := ⟨none, [], Registry.stock⟩
    let run := Handler.cd.run (Host.empty none) session ["/a\x00"]
    Handler.cd ∈ [Handler.echo, .type, .pwd, .cd] ∧
      Mistake (Host.empty none) session .cd ["/a\x00"] ∧ run.outcome = .ok 1 ∧
      (⟨"cd", ["/a\x00"]⟩ : Invocation).perform (Host.empty none) (some .cd) session =
        Run.value session [.line "cd: /a\x00: No such file or directory", .flush] 1 := by
  intro session run
  have staying : Handler.cd ∈ [Handler.echo, .type, .pwd, .cd] := by simp
  have failed : run.outcome = .ok 1 := by decide
  obtain ⟨-, mistaken, -, -, performed⟩ :=
    mistakes_are_answered (Host.empty none) session "cd" ["/a\x00"] staying
  exact ⟨staying, mistaken.mp failed, failed, performed⟩

end PlainShell
