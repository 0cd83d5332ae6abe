import PlainShell.Proofs.DirectoryEffect
import PlainShell.Proofs.NormalForm

/-!
The working directory over a whole history. Whatever is done to a session, in whatever order and
with whatever changes around it, its directory is absolute or unknown, and a directory once known
stays known. After the first successful change its text is a normal form, which stands for itself.
-/

namespace PlainShell

/-- What can be asked of a session. -/
inductive Operation where
  | execute (line : Text)
  | dispatch (tokens : List Text) (line : Text)
  | builtin (invocation : Invocation)
  | external (invocation : Invocation)
  | changeDirectory (path : Text)

namespace Operation

variable (operation : Operation) (host : Host) (session : Session)

/-- The session after the operation, whether it returns or departs. -/
def left : Session :=
  match operation with
  | .execute line => (session.execute host line).session
  | .dispatch tokens line => (session.dispatch host tokens line).session
  | .builtin invocation =>
    (invocation.perform host (session.builtins.get? invocation.name) session).session
  | .external invocation => (invocation.external host session).session
  | .changeDirectory path =>
    match session.destination host path with
    | .ok directory => session.moveTo directory
    | .error _ => session

/-- The directories that the operation has successfully changed to. -/
def moves : List Text :=
  match operation with
  | .execute line => (session.execute host line).moves
  | .dispatch tokens line => (session.dispatch host tokens line).moves
  | .builtin invocation =>
    (invocation.perform host (session.builtins.get? invocation.name) session).moves
  | .external invocation => (invocation.external host session).moves
  | .changeDirectory path =>
    match session.destination host path with
    | .ok directory => [directory]
    | .error _ => []

theorem effect :
    DirectoryEffect host session (operation.left host session).directory
      (operation.moves host session) := by
  cases operation with
  | execute line => exact session.execute_directoryEffect host line
  | dispatch tokens line => exact session.dispatch_directoryEffect host tokens line
  | builtin invocation =>
    exact invocation.perform_directoryEffect host session (session.builtins.get? invocation.name)
  | external invocation => exact invocation.external_directoryEffect host session
  | changeDirectory path =>
    simp only [left, moves]
    cases reached : session.destination host path with
    | ok directory => exact .goes reached rfl rfl
    | error error => exact .stays rfl rfl

end Operation

/-- An operation, and the machine, the environment and the builtins that it meets. Of the session
before it only the directory is left. -/
structure Call where
  host : Host
  environment : Environment
  builtins : Registry
  operation : Operation

namespace Call

variable (call : Call) (directory : Option Text)

def session : Session := ⟨directory, call.environment, call.builtins⟩

/-- The directory after the call. -/
def left : Option Text := (call.operation.left call.host (call.session directory)).directory

def moves : List Text := call.operation.moves call.host (call.session directory)

theorem effect : DirectoryEffect call.host (call.session directory) (call.left directory)
    (call.moves directory) :=
  call.operation.effect call.host (call.session directory)

end Call

/-- The directory after all the calls, one after another. -/
def afterCalls (directory : Option Text) (calls : List Call) : Option Text :=
  calls.foldl (fun reached call => call.left reached) directory

/-- What every call keeps, all of them keep. -/
theorem afterCalls_invariant {kept : Option Text → Prop}
    (step : ∀ (call : Call) (directory : Option Text), kept directory → kept (call.left directory))
    {directory : Option Text} (first : kept directory) (calls : List Call) :
    kept (afterCalls directory calls) := by
  induction calls generalizing directory with
  | nil => exact first
  | cons call rest ih => exact ih (step call directory first)

theorem afterCalls_append (directory : Option Text) (before later : List Call) :
    afterCalls directory (before ++ later) = afterCalls (afterCalls directory before) later :=
  List.foldl_append

/-! One step. -/

/-- The directory is unknown or absolute. -/
def AbsoluteIfKnown (directory : Option Text) : Prop :=
  ∀ base ∈ directory, Path.isAbsolute base = true

/-- The directory is known, by a text in normal form. -/
def KnownNormal (directory : Option Text) : Prop := ∃ current ∈ directory, Path.IsNormal current

theorem KnownNormal.absoluteIfKnown {directory : Option Text}
    (knownNormal : KnownNormal directory) : AbsoluteIfKnown directory := by
  obtain ⟨current, known, normal⟩ := knownNormal
  intro base same
  rw [Option.mem_unique same known]
  exact normal.absolute

namespace DirectoryEffect

variable {host : Host} {session : Session} {left : Option Text} {moves : List Text}
  (effect : DirectoryEffect host session left moves)
include effect

/-- The directory changes by the reported moves and by nothing else. -/
theorem left_eq : left = moves.getLast?.or session.directory := by
  cases effect with
  | stays kept silent => rw [kept, silent]; rfl
  | goes reached there told => rw [there, told]; rfl

theorem knownNormal (placed : AbsoluteIfKnown session.directory) (moved : moves ≠ []) :
    KnownNormal left := by
  cases effect with
  | stays kept silent => exact absurd silent moved
  | goes reached there told =>
    have resolved := (Session.destination_eq_ok_iff.mp reached).1
    exact ⟨_, there, Path.isNormal_of_resolve placed resolved⟩

theorem kept_or_knownNormal (placed : AbsoluteIfKnown session.directory) :
    left = session.directory ∨ KnownNormal left := by
  by_cases moved : moves = []
  · left
    rw [effect.left_eq, moved]
    rfl
  · exact Or.inr (effect.knownNormal placed moved)

end DirectoryEffect

theorem Call.absoluteIfKnown (call : Call) {directory : Option Text}
    (placed : AbsoluteIfKnown directory) : AbsoluteIfKnown (call.left directory) := by
  rcases (call.effect directory).kept_or_knownNormal placed with kept | knownNormal
  · rw [kept]
    exact placed
  · exact knownNormal.absoluteIfKnown

theorem Call.knownNormal (call : Call) {directory : Option Text}
    (knownNormal : KnownNormal directory) : KnownNormal (call.left directory) := by
  rcases (call.effect directory).kept_or_knownNormal knownNormal.absoluteIfKnown with kept | there
  · rw [kept]
    exact knownNormal
  · exact there

theorem Call.known (call : Call) {directory : Option Text} (known : directory.isSome = true) :
    (call.left directory).isSome = true := by
  rw [(call.effect directory).left_eq, Option.isSome_or]
  simpa [session] using Or.inr known

/-- A directory that stands for itself: to every session, and to a `cd` that is given as its
argument what `pwd` has printed. -/
structure Settled (current : Text) : Prop where
  normal : Path.IsNormal current
  closed : current.getLast? = some Path.slash → current = "/" ∨ current = "//"
  fixed : ∀ directory, Path.resolve directory current = some current
  printed : ∀ (host : Host) (session : Session) (arguments : List Text),
    session.directory = some current →
      (Handler.pwd.run host session arguments).written = Utf8.encode (current ++ "\n")
  back : ∀ (host : Host) (session : Session) (further : List Text),
    Handler.cd.run host session (current :: further) =
      if host.isEnterable current then
        Run.value (session.moveTo current) [.note (.movedTo current)] 0
      else session.report (.directoryNotFound current)

theorem Path.IsNormal.settled {current : Text} (normal : Path.IsNormal current) :
    Settled current where
  normal := normal
  closed := normal.eq_root_of_getLast?
  fixed := normal.resolve_eq
  printed host session arguments known := by
    simp only [Handler.run, Session.printDirectory, Session.workingDirectory, known]
    rw [Run.written_value, Event.octets_single_line]
  back host session further := by
    have plain : current ≠ Session.homeShortcut := by
      rintro rfl
      exact absurd normal.absolute (by decide)
    have arrived : session.wanted host current >>= session.destination host =
        session.destination host current := by
      rw [Session.wanted, if_neg plain]
      rfl
    simp only [Handler.run, Session.enter, arrived, Session.destination, normal.resolve_eq]
    by_cases enterable : host.isEnterable current = true
    · simp only [if_pos enterable]
    · simp only [if_neg enterable]

/-- The directory is unknown or absolute at all times, a known one never becomes unknown, only a
reported change touches it, and from the first such change on it stands for itself. -/
theorem directory_over_calls (directory : Option Text) (placed : AbsoluteIfKnown directory)
    (calls : List Call) :
    let reached := afterCalls directory calls
    (∀ base ∈ reached, Path.isAbsolute base = true) ∧
    (∀ later, reached.isSome = true → (afterCalls directory (calls ++ later)).isSome = true) ∧
    (∀ call : Call, call.left reached = (call.moves reached).getLast?.or reached) ∧
    (∀ before call later, calls = before ++ call :: later →
      call.moves (afterCalls directory before) ≠ [] →
        ∃ current, reached = some current ∧ Settled current) := by
  intro reached
  refine ⟨afterCalls_invariant Call.absoluteIfKnown placed calls, ?_, ?_, ?_⟩
  · intro later known
    rw [afterCalls_append]
    exact afterCalls_invariant Call.known known later
  · intro call
    exact (call.effect reached).left_eq
  · intro before call later split moved
    have earlier : AbsoluteIfKnown (afterCalls directory before) :=
      afterCalls_invariant Call.absoluteIfKnown placed before
    have first : KnownNormal (call.left (afterCalls directory before)) :=
      (call.effect _).knownNormal earlier moved
    obtain ⟨current, known, normal⟩ := afterCalls_invariant Call.knownNormal first later
    refine ⟨current, ?_, normal.settled⟩
    change afterCalls directory calls = some current
    rw [split, afterCalls_append]
    exact known

/-- From an unknown directory: the first change is made by a path that needs cleaning, the lines
before and after it fail. -/
theorem directory_over_calls_of_unknown :
    let host := (Host.empty none).add "/srv/a" (.directory true)
    let call := fun operation : Operation => (⟨host, [], Registry.stock, operation⟩ : Call)
    let calls := [call (.execute "cd a"), call (.changeDirectory "//srv/./b/../a/"),
      call (.dispatch ["cd", "nowhere"] "cd nowhere")]
    AbsoluteIfKnown none ∧ afterCalls none calls = some "//srv/a" ∧ Settled "//srv/a" := by
  intro host call calls
  have placed : AbsoluteIfKnown none := by simp [AbsoluteIfKnown]
  have moved : (call (.changeDirectory "//srv/./b/../a/")).moves
      (afterCalls none [call (.execute "cd a")]) ≠ [] := by decide
  have arrived : afterCalls none calls = some "//srv/a" := by decide
  obtain ⟨-, -, -, settled⟩ := directory_over_calls none placed calls
  obtain ⟨current, reached, stands⟩ := settled [call (.execute "cd a")]
    (call (.changeDirectory "//srv/./b/../a/")) _ rfl moved
  obtain rfl := Option.some.inj (arrived.symm.trans reached)
  exact ⟨placed, arrived, stands⟩

end PlainShell
