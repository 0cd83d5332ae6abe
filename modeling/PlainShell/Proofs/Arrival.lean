import PlainShell.Proofs.DirectoryEffect
import PlainShell.Proofs.Delivery
import PlainShell.Proofs.Command

/-!
Changing the directory succeeds altogether or changes nothing. It fails when the argument stands for
no directory, when the path has no meaning because the working directory is unknown, or when what it
leads to cannot be entered. Each failure is one line, and the session is as it was.
-/

namespace PlainShell

theorem Host.isEnterable_iff {host : Host} {path : Text} :
    host.isEnterable path = true ↔ host.find? path = some (.directory true) := by
  unfold isEnterable
  cases host.find? path with
  | none => simp
  | some node =>
    cases node with
    | file content => simp
    | directory searchable => simp

theorem Path.placed_of_resolve {directory : Option Text} {path target : Text}
    (resolved : resolve directory path = some target) :
    isAbsolute path = true ∨ directory.isSome = true := by
  cases directory with
  | some base => exact Or.inr rfl
  | none =>
    rw [resolve] at resolved
    split at resolved
    · next absolute => exact Or.inl absolute
    · simp at resolved

namespace Session

variable {host : Host} {session : Session} {argument target directory : Text}

/-- The path that an argument stands for. Only `~` by itself stands for another one: `HOME`, and
when that is unset or empty the home that the account has. -/
inductive StandsFor (host : Host) (session : Session) : Text → Text → Prop where
  | itself {argument : Text} (plain : argument ≠ "~") : StandsFor host session argument argument
  | home {path : Text} (named : session.environment.get? "HOME" = some path) (filled : path ≠ []) :
    StandsFor host session "~" path
  | account {path : Text}
    (unset : ∀ value, session.environment.get? "HOME" = some value → value = [])
    (known : host.accountHome = some path) (filled : path ≠ []) : StandsFor host session "~" path

/-- The path leads to a directory that can be entered. -/
structure Opens (host : Host) (session : Session) (path directory : Text) : Prop where
  placed : Path.isAbsolute path = true ∨ session.directory.isSome = true
  resolved : Path.resolve session.directory path = some directory
  searchable : host.find? directory = some (.directory true)

theorem standsFor_home_iff :
    StandsFor host session "~" target ↔
      (session.environment.filled? "HOME").or (host.accountHome.filter (· ≠ [])) = some target := by
  have named (value : Text) : session.environment.filled? "HOME" = some value ↔
      session.environment.get? "HOME" = some value ∧ value ≠ [] := by
    simp [Environment.filled?, Option.filter_eq_some_iff]
  have unset : session.environment.filled? "HOME" = none ↔
      ∀ value, session.environment.get? "HOME" = some value → value = [] := by
    simp [Environment.filled?, Option.filter_eq_none_iff]
  have known : host.accountHome.filter (· ≠ []) = some target ↔
      host.accountHome = some target ∧ target ≠ [] := by
    simp [Option.filter_eq_some_iff]
  rw [Option.or_eq_some_iff, named, unset, known]
  constructor
  · intro stands
    cases stands with
    | itself plain => exact absurd rfl plain
    | home named filled => exact Or.inl ⟨named, filled⟩
    | account unset known filled => exact Or.inr ⟨unset, known, filled⟩
  · rintro (⟨named, filled⟩ | ⟨unset, known, filled⟩)
    · exact .home named filled
    · exact .account unset known filled

theorem wanted_home (host : Host) (session : Session) :
    session.wanted host "~" = session.home host := if_pos rfl

theorem wanted_of_standsFor (stands : StandsFor host session argument target) :
    session.wanted host argument = .ok target := by
  by_cases shortcut : argument = homeShortcut
  · obtain rfl : argument = ("~" : Text) := shortcut
    rw [standsFor_home_iff] at stands
    rw [wanted_home, home, stands]
  · cases stands with
    | itself => exact if_neg shortcut
    | home | account => exact absurd rfl shortcut

/-- Only `~` can stand for nothing. -/
theorem wanted_of_nothing (nothing : ¬∃ target, StandsFor host session argument target) :
    session.wanted host argument = .error (.homeUnknown "$HOME is not defined") := by
  obtain rfl : argument = ("~" : Text) := by
    by_contra plain
    exact nothing ⟨argument, .itself plain⟩
  have homeless :
      (session.environment.filled? "HOME").or (host.accountHome.filter (· ≠ [])) = none := by
    rw [Option.eq_none_iff_forall_ne_some]
    intro target found
    exact nothing ⟨target, standsFor_home_iff.mpr found⟩
  rw [wanted_home, home, homeless]

theorem destination_of_opens (opens : Opens host session target directory) :
    session.destination host target = .ok directory :=
  destination_eq_ok_iff.mpr ⟨opens.resolved, Host.isEnterable_iff.mpr opens.searchable⟩

/-- Whatever keeps the path from opening, it is told as it was given. -/
theorem destination_of_closed (closed : ¬∃ directory, Opens host session target directory) :
    session.destination host target = .error (.directoryNotFound target) := by
  cases resolved : Path.resolve session.directory target with
  | none => simp only [destination, resolved]
  | some directory =>
    have shut : ¬host.isEnterable directory = true := by
      intro enterable
      exact closed ⟨directory, Path.placed_of_resolve resolved, resolved,
        Host.isEnterable_iff.mp enterable⟩
    simp only [destination, resolved, if_neg shut]

/-! What `cd` makes of it. -/

theorem enter_of_ok (further : List Text)
    (reached : session.wanted host argument >>= session.destination host = .ok directory) :
    session.enter host (argument :: further) =
      Run.value (session.moveTo directory) [.note (.movedTo directory)] 0 := by
  simp only [enter, reached]

theorem enter_of_error {error : ShellError} (usual : error.code = 1) (further : List Text)
    (failed : session.wanted host argument >>= session.destination host = .error error) :
    session.enter host (argument :: further) = Run.value session [.line error.message] 1 := by
  simp only [enter, failed, report, usual]

end Session

/-- The run has moved the session to the directory, and nothing else. -/
structure Run.Arrives (run : Run Int) (session : Session) (directory : Text) : Prop where
  session : run.session = session.moveTo directory
  silent : run.Prints [] none
  status : run.outcome = .ok 0

/-- The run has told why nothing came of it, and has left the session as it was. -/
structure Run.Refuses (run : Run Int) (session : Session) (message : Text) : Prop where
  session : run.session = session
  told : run.Prints [] (some message)
  status : run.outcome = .ok 1

namespace Invocation

variable {host : Host} {session : Session} {name argument : Text} {further : List Text}

theorem arrives_of_ok {directory : Text}
    (reached : session.wanted host argument >>= session.destination host = .ok directory) :
    ((⟨name, argument :: further⟩ : Invocation).perform host (some .cd) session).Arrives session
      directory := by
  have entered : Handler.cd.run host session (argument :: further) =
      Run.value (session.moveTo directory) [.note (.movedTo directory)] 0 :=
    Session.enter_of_ok further reached
  rw [Command.perform_of_ok (congrArg Run.outcome entered), entered]
  exact ⟨rfl, .of_writes rfl, rfl⟩

theorem refuses_of_error {error : ShellError} (usual : error.code = 1)
    (failed : session.wanted host argument >>= session.destination host = .error error) :
    ((⟨name, argument :: further⟩ : Invocation).perform host (some .cd) session).Refuses session
      error.message := by
  have reported : Handler.cd.run host session (argument :: further) =
      Run.value session [.line error.message] 1 := Session.enter_of_error usual further failed
  rw [Command.perform_of_ok (congrArg Run.outcome reported), reported]
  exact ⟨rfl, .of_writes rfl, rfl⟩

end Invocation

namespace Session

/-- The stock `cd` moves to the directory that its first argument stands for, or moves nowhere and
says why. The other arguments do not count. -/
theorem cd_all_or_nothing (host : Host) (session : Session) (name : Text) :
    let run := fun arguments =>
      (⟨name, arguments⟩ : Invocation).perform host (Registry.stock.get? "cd") session
    run [] = Run.value session [.flush] 0 ∧
    ∀ argument further,
      run (argument :: further) = run [argument] ∧
      (∀ target directory, StandsFor host session argument target →
        Opens host session target directory →
        (run (argument :: further)).Arrives session directory) ∧
      (∀ target, StandsFor host session argument target →
        (¬∃ directory, Opens host session target directory) →
        (run (argument :: further)).Refuses session
          ("cd: " ++ target ++ ": No such file or directory")) ∧
      ((¬∃ target, StandsFor host session argument target) →
        (run (argument :: further)).Refuses session
          "Failed to find user's home directory $HOME is not defined") ∧
      ((run (argument :: further)).outcome = .ok 0 ↔
        ∃ target directory, StandsFor host session argument target ∧
          Opens host session target directory) := by
  intro run
  refine ⟨rfl, fun argument further => ?_⟩
  have arrives : ∀ target directory, StandsFor host session argument target →
      Opens host session target directory →
      (run (argument :: further)).Arrives session directory := by
    intro target directory stands opens
    apply Invocation.arrives_of_ok
    rw [wanted_of_standsFor stands]
    exact destination_of_opens opens
  have closed : ∀ target, StandsFor host session argument target →
      (¬∃ directory, Opens host session target directory) →
      (run (argument :: further)).Refuses session
        ("cd: " ++ target ++ ": No such file or directory") := by
    intro target stands shut
    have usual : (ShellError.directoryNotFound target).code = 1 := rfl
    apply Invocation.refuses_of_error usual
    rw [wanted_of_standsFor stands]
    exact destination_of_closed shut
  have homeless : (¬∃ target, StandsFor host session argument target) →
      (run (argument :: further)).Refuses session
        "Failed to find user's home directory $HOME is not defined" := by
    intro nothing
    have usual : (ShellError.homeUnknown "$HOME is not defined").code = 1 := rfl
    apply Invocation.refuses_of_error usual
    rw [wanted_of_nothing nothing]
    rfl
  refine ⟨rfl, arrives, closed, homeless, fun success => ?_, ?_⟩
  · -- A refusal has status 1, so the two ways to be refused are ruled out one after the other.
    by_contra missing
    by_cases stands : ∃ target, StandsFor host session argument target
    · obtain ⟨target, stands⟩ := stands
      have refused := (closed target stands fun ⟨directory, opens⟩ =>
        missing ⟨target, directory, stands, opens⟩).status
      rw [success] at refused
      simp at refused
    · have refused := (homeless stands).status
      rw [success] at refused
      simp at refused
  · rintro ⟨target, directory, stands, opens⟩
    exact (arrives target directory stands opens).status

end Session

end PlainShell
